import RecordFilter.Proofs.Session.Query

/-! Queries one after another narrow a document down to what satisfies them all, in any order. -/

namespace RecordFilter

namespace Json

variable {keep also : Json → Bool}

/-- Filtering twice keeps the records that both filters keep. -/
theorem filterRecords_filterRecords (collection : Json) :
    (collection.filterRecords keep).filterRecords also =
      collection.filterRecords fun record => keep record && also record := by
  cases collection with
  | array items => simp [filterRecords, List.filter_filter, Bool.and_comm]
  | object members => simp [filterRecords, List.filter_filter, Bool.and_comm]
  | null | bool | number | string => rfl

/-- A scalar has no records to keep. -/
theorem filterRecords_scalar {collection : Json} (scalar : collection.isScalar = true) :
    collection.filterRecords keep = .array [] := by
  cases collection <;> first | rfl | simp [isScalar] at scalar

end Json

namespace ConditionSet

variable [Pattern.Engine]

/-- Empty groups do not count for what satisfies a set. -/
theorem satisfiedBy_withoutEmpty {set : ConditionSet} {record : Json} :
    set.withoutEmpty.SatisfiedBy record ↔ set.SatisfiedBy record := by
  simp only [SatisfiedBy, withoutEmpty, List.mem_filter, Bool.not_eq_true',
    List.isEmpty_eq_false_iff]
  -- A group that counts holds conditions, so it is not among those that are left out.
  constructor
  · rintro ⟨group, ⟨inside, _⟩, inhabited, all⟩
    exact ⟨group, inside, inhabited, all⟩
  · rintro ⟨group, inside, inhabited, all⟩
    exact ⟨group, ⟨inside, inhabited⟩, inhabited, all⟩

/-- A record is judged by a set of known operators as the set is satisfied by it. -/
theorem accepts_of_known {set : ConditionSet}
    (known : ∀ condition ∈ set.conditions, Operator.isAllowed condition.operator = true)
    (record : Json) : (set.accepts record).result = .ok (decide (set.SatisfiedBy record)) := by
  obtain ⟨compiled, resolved, accepts⟩ := exists_compiled known
  simp [ConditionSet.accepts, resolved, accepts, Except.bind]

end ConditionSet

namespace Session

section Engine

variable [Pattern.Engine]

/-- Queries by several sets one after another, each at the root: the answers to all of them. -/
def narrow (session : Session) : List ConditionSet → List (Answer Json)
  | [] => []
  | set :: rest =>
    -- A query leaves no path behind, so the next one filters what this one gave.
    let answer := (session.whereSet set).get
    answer :: answer.session.narrow rest

/-- The records of a collection that satisfy every one of several sets. -/
def satisfyingAll (sets : List ConditionSet) (collection : Json) : Json :=
  collection.filterRecords fun record => decide (∀ set ∈ sets, set.SatisfiedBy record)

/-- The sets that satisfy the same count, not their order or number. -/
theorem satisfyingAll_congr {sets others : List ConditionSet} (same : ∀ set, set ∈ others ↔ set ∈ sets)
    (collection : Json) : satisfyingAll others collection = satisfyingAll sets collection := by
  simp only [satisfyingAll, same]

/-- What satisfies one set and then all others satisfies all of them. -/
theorem satisfyingAll_cons (set : ConditionSet) (rest : List ConditionSet) (collection : Json) :
    satisfyingAll rest (satisfyingAll [set] collection) = satisfyingAll (set :: rest) collection := by
  simp [satisfyingAll, Json.filterRecords_filterRecords]

/-- A query at the root of a session without conditions filters the current document. -/
theorem get_whereSet {set : ConditionSet} (document : Document) (conditional : set.conditions ≠ [])
    (known : ∀ condition ∈ set.conditions, Operator.isAllowed condition.operator = true) :
    ((ofDocument document).whereSet set).get.result =
        .ok (satisfyingAll [set] document.current) ∧
      ((ofDocument document).whereSet set).get.session =
        ofDocument (document.replace (satisfyingAll [set] document.current)) := by
  -- The session had no conditions, so it asks for the set without its empty groups.
  have conditions : ((ofDocument document).whereSet set).conditions = set.withoutEmpty :=
    conditions_whereSet_new document [] set
  have same := ConditionSet.conditions_withoutEmpty set
  have found : ((ofDocument document).whereSet set).collection? = some document.current := rfl
  -- The set has conditions, so the whole document is filtered by it.
  have given := query_of_found found
  rw [conditions, same, if_neg conditional,
    ConditionSet.evaluate_of_known (by rwa [same])] at given
  simp only [ConditionSet.satisfiedBy_withoutEmpty] at given
  have single : satisfyingAll [set] document.current =
      document.current.filterRecords fun record => decide (set.SatisfiedBy record) := by
    simp [satisfyingAll]
  rw [single]
  exact get_of_ok given

/-- The last answer gives what satisfies all sets, and leaves it as the current document. -/
theorem getLast?_narrow {sets : List ConditionSet} (document : Document)
    (conditional : ∀ set ∈ sets, set.conditions ≠ [])
    (known : ∀ set ∈ sets, ∀ condition ∈ set.conditions,
      Operator.isAllowed condition.operator = true) (some_ : sets ≠ []) :
    ∃ answer, ((ofDocument document).narrow sets).getLast? = some answer ∧
      answer.result = .ok (satisfyingAll sets document.current) ∧
      answer.session = (ofDocument document).after (satisfyingAll sets document.current) := by
  -- The induction is on the queries, with the document as the ones before have left it.
  induction sets generalizing document with
  | nil => contradiction
  | cons set rest ih =>
    obtain ⟨firstConditional, othersConditional⟩ := List.forall_mem_cons.mp conditional
    obtain ⟨firstKnown, othersKnown⟩ := List.forall_mem_cons.mp known
    obtain ⟨result, after⟩ := get_whereSet document firstConditional firstKnown
    cases rest with
    | nil => exact ⟨_, rfl, result, after⟩
    | cons next others =>
      -- The other queries start over from what the first one has left.
      obtain ⟨answer, last, given, left⟩ :=
        ih (document.replace (satisfyingAll [set] document.current)) othersConditional othersKnown
          (List.cons_ne_nil next others)
      have narrowed : (document.replace (satisfyingAll [set] document.current)).current =
          satisfyingAll [set] document.current := rfl
      rw [narrowed, satisfyingAll_cons] at given left
      refine ⟨answer, ?_, given, left⟩
      rw [narrow, after, ← last]
      exact List.getLast?_cons_cons

/--
Queries at the root by sets of known operators, each with a condition, give in the end what a single
filter keeps: the records that satisfy every one of the sets. Neither the order of the queries nor
how often each of them is run makes a difference, and a scalar leaves an empty array.
-/
theorem narrow_keeps_satisfyingAll (document : Document) (sets : List ConditionSet)
    (conditional : ∀ set ∈ sets, set.conditions ≠ [])
    (known : ∀ set ∈ sets, ∀ condition ∈ set.conditions,
      Operator.isAllowed condition.operator = true) :
    ∃ value,
      (∀ items, document.current = .array items → value =
        .array (items.filter fun record => decide (∀ set ∈ sets, set.SatisfiedBy record))) ∧
      (∀ members, document.current = .object members → value =
        .object (members.filter fun member => decide (∀ set ∈ sets, set.SatisfiedBy member.2))) ∧
      (document.current.isScalar = true → value = .array []) ∧
      (∀ set ∈ sets, ∀ record,
        (set.accepts record).result = .ok (decide (set.SatisfiedBy record))) ∧
      ∀ order, (∀ set, set ∈ order ↔ set ∈ sets) →
        ((ofDocument document).narrow order).getLast?.map
            (fun answer => (answer.result, answer.session)) =
          order.getLast?.map fun _ => (.ok value, (ofDocument document).after value) := by
  refine ⟨satisfyingAll sets document.current, ?_, ?_, Json.filterRecords_scalar, ?_, ?_⟩
  · intro items array
    rw [satisfyingAll, array]
    rfl
  · intro members object
    rw [satisfyingAll, object]
    rfl
  · exact fun set inside => ConditionSet.accepts_of_known (known set inside)
  · intro order same
    -- Only which sets are asked for counts for the records that satisfy them all.
    rw [← satisfyingAll_congr same]
    cases order with
    | nil => rfl
    | cons first rest =>
      obtain ⟨answer, last, given, left⟩ := getLast?_narrow document
        (fun set inside => conditional set ((same set).mp inside))
        (fun set inside => known set ((same set).mp inside)) (List.cons_ne_nil first rest)
      rw [last, List.getLast?_cons, Option.map_some, Option.map_some, given, left]

end Engine

/-- A set that asks for a name, behind an empty group. -/
def namedSet : ConditionSet := ⟨[[], [⟨"name", "notnull", .null⟩]]⟩

/-- A set that asks for an age. -/
def agedSet : ConditionSet := ⟨[[⟨"age", ">", .string "17"⟩]]⟩

/-- Three members of which one has a name and enough of an age. -/
def people : Document :=
  .ofValue (.object [("r", .object [("name", .string "Rex"), ("age", .string "30")]),
    ("m", .object [("name", .string "Max"), ("age", .string "12")]),
    ("a", .object [("age", .string "40")])])

/-- Two sets are asked for in another order, one of them twice, and
leave the one member under its key. -/
theorem narrow_people :
    ((ofDocument people).narrow [agedSet, namedSet, agedSet]).getLast?.map Answer.result =
      some (.ok (.object [("r", .object [("name", .string "Rex"), ("age", .string "30")])])) := by
  have known : ∀ set ∈ [namedSet, agedSet], ∀ condition ∈ set.conditions,
      Operator.isAllowed condition.operator = true := by decide
  have conditional : ∀ set ∈ [namedSet, agedSet], set.conditions ≠ [] := by
    simp [namedSet, agedSet, ConditionSet.conditions]
  have same : ∀ set, set ∈ [agedSet, namedSet, agedSet] ↔ set ∈ [namedSet, agedSet] := by
    intro set
    -- The set that is asked for twice is one of the two.
    simp only [List.mem_cons, List.not_mem_nil, or_false]
    exact ⟨fun either => either.elim .inr id, .inr⟩
  obtain ⟨value, _, object, _, _, orders⟩ :=
    narrow_keeps_satisfyingAll people [namedSet, agedSet] conditional known
  have rex : ∀ set ∈ [namedSet, agedSet],
      set.SatisfiedBy (.object [("name", .string "Rex"), ("age", .string "30")]) := by decide +kernel
  have max : ¬∀ set ∈ [namedSet, agedSet],
      set.SatisfiedBy (.object [("name", .string "Max"), ("age", .string "12")]) := by decide +kernel
  have ada : ¬∀ set ∈ [namedSet, agedSet],
      set.SatisfiedBy (.object [("age", .string "40")]) := by decide +kernel
  have last := congrArg (Option.map Prod.fst) (orders _ same)
  rw [object _ rfl, Option.map_map] at last
  simp only [List.filter_cons, List.filter_nil, decide_eq_true rex, decide_eq_false max,
    decide_eq_false ada, if_true, if_false, Bool.false_eq_true] at last
  exact last

end Session

end RecordFilter
