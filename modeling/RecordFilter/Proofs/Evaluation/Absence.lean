import RecordFilter.Proofs.Evaluation.Meaning

/-! An absent field and a field that is null are the same to every condition,
and a scalar has no fields at all. -/

namespace RecordFilter

namespace Json

/-- What a condition sees behind a step: the part of the document there,
and null where there is none. -/
def fieldOrNull (record : Json) (segment : Segment) : Json :=
  (record.child segment).getD null

variable {name key : String} {front back : List (String × Json)}

/-- Members in front hide those behind them. -/
theorem find?_append : find? name (front ++ back) = (find? name front).or (find? name back) := by
  induction front with
  | nil => rfl
  | cons member rest ih =>
    obtain ⟨first, value⟩ := member
    rw [List.cons_append, find?, find?, ih]
    -- The first member either ends the search or is passed over.
    split <;> rfl

/-- Nothing is found under a key that no member has. -/
theorem find?_eq_none {members : List (String × Json)} (new : key ∉ members.map Prod.fst) :
    find? key members = none := by
  induction members with
  | nil => rfl
  | cons member rest ih =>
    obtain ⟨first, value⟩ := member
    simp only [List.map_cons, List.mem_cons, not_or] at new
    have differs : ¬(first == key) = true := by simpa using Ne.symm new.1
    rw [find?, if_neg differs, ih new.2]

/-- A null member of a new key changes nothing that is seen of the members. -/
theorem find?_insert_null (new : key ∉ (front ++ back).map Prod.fst) (name : String) :
    (find? name (front ++ (key, null) :: back)).getD null =
      (find? name (front ++ back)).getD null := by
  by_cases same : key = name
  · -- Where the null is found now, nothing was found before.
    subst same
    have nothing : find? key (front ++ back) = none := find?_eq_none new
    rw [List.map_append, List.mem_append, not_or] at new
    rw [nothing, find?_append, find?_eq_none new.1]
    simp [find?]
  · -- The search for another key passes over the null.
    have passed : find? name ((key, null) :: back) = find? name back := by simp [find?, same]
    rw [find?_append, find?_append, passed]

/-- An object with a null member of a new key is seen like the one without it. -/
theorem fieldOrNull_insert_null (new : key ∉ (front ++ back).map Prod.fst) (segment : Segment) :
    (object (front ++ (key, null) :: back)).fieldOrNull segment =
      (object (front ++ back)).fieldOrNull segment := by
  -- A position is looked up as the key that is written like it.
  cases segment with
  | field name => exact find?_insert_null new name
  | index position => exact find?_insert_null new (Segment.index position).text

/-- A scalar is seen like the object without members. -/
theorem fieldOrNull_of_isScalar {scalar : Json} (isScalar : scalar.isScalar = true)
    (segment : Segment) : scalar.fieldOrNull segment = (object []).fieldOrNull segment := by
  have nothing : (object []).child segment = none := by cases segment <;> rfl
  have none_ : scalar.child segment = none := by
    -- Steps lead into arrays and objects only.
    cases scalar with
    | array => contradiction
    | object => contradiction
    | _ => rfl
  rw [fieldOrNull, fieldOrNull, nothing, none_]

end Json

section Engine

variable [Pattern.Engine]

/-- An operator says of an absent field what it says of null. -/
theorem Operator.test_getD (operator : Operator) (field : Option Json) (operand : Json) :
    operator.test (some (field.getD .null)) operand = operator.test field operand := by
  cases field with
  | some value => rfl
  | none =>
    -- Only the two null tests look at whether there is a field,
    -- and they treat null in the same way.
    cases operator <;> rfl

/-- A test that has been compiled says of an absent field what it says of null. -/
theorem CompiledTest.holds_getD (test : CompiledTest) (field : Option Json) :
    test.holds (some (field.getD .null)) = test.holds field := by
  -- A pattern looks at the text form alone, and null has none, like nothing.
  cases test with
  | predicate operator operand => exact operator.test_getD field operand
  | pattern regex => cases field <;> rfl

/-- Records that are seen alike satisfy the same conditions. -/
theorem CompiledCondition.holds_congr {record other : Json}
    (alike : ∀ segment, record.fieldOrNull segment = other.fieldOrNull segment)
    (condition : CompiledCondition) : condition.holds record = condition.holds other := by
  have seen : (record.child condition.key).getD .null = (other.child condition.key).getD .null :=
    alike condition.key
  calc condition.holds record
    _ = condition.test.holds (some ((record.child condition.key).getD .null)) :=
      (condition.test.holds_getD _).symm
    _ = condition.test.holds (some ((other.child condition.key).getD .null)) := by rw [seen]
    _ = condition.holds other := condition.test.holds_getD _

/-- Records that are seen alike are accepted by the same groups. -/
theorem CompiledSet.accepts_congr {record other : Json}
    (alike : ∀ segment, record.fieldOrNull segment = other.fieldOrNull segment)
    (set : CompiledSet) : set.accepts record = set.accepts other := by
  simp only [accepts, CompiledCondition.holds_congr alike]

end Engine

namespace ConditionSet

section Engine

variable [Pattern.Engine]

/-- Records that are seen alike are judged alike by every set, in
the result and in what is reported. -/
theorem accepts_congr {record other : Json}
    (alike : ∀ segment, record.fieldOrNull segment = other.fieldOrNull segment)
    (set : ConditionSet) : set.accepts record = set.accepts other := by
  -- A set is resolved without a look at the record.
  simp only [accepts, CompiledSet.accepts_congr alike]

/--
A null member of a key that a record lacks may be inserted anywhere, and every set says of the
record what it said before: the same answer or the same failure, with the same reports. A scalar is
judged like an object without members.
-/
theorem accepts_insert_null (set : ConditionSet) :
    (∀ (key : String) (front back : List (String × Json)), key ∉ (front ++ back).map Prod.fst →
      set.accepts (.object (front ++ (key, .null) :: back)) = set.accepts (.object (front ++ back))) ∧
    ∀ scalar : Json, scalar.isScalar = true → set.accepts scalar = set.accepts (.object []) := by
  constructor
  · intro key front back new
    exact accepts_congr (Json.fieldOrNull_insert_null new) set
  · intro scalar isScalar
    exact accepts_congr (Json.fieldOrNull_of_isScalar isScalar) set

end Engine

/-- Conditions on keys that are there, that are not, and that are written like a position. -/
def presenceSet : ConditionSet :=
  ⟨[[⟨"a", "null", .bool true⟩, ⟨"7", "notnull", .null⟩], [⟨"a", "startswith", .string ""⟩,
    ⟨"a", "<=", .null⟩]]⟩

/-- A missing key is inserted as null between two members, and a text
is judged like an empty object. -/
theorem accepts_insert_null_between :
    presenceSet.accepts (.object [("7", .null), ("a", .null), ("b", .bool true)]) =
        presenceSet.accepts (.object [("7", .null), ("b", .bool true)]) ∧
      presenceSet.accepts (.string "a") = presenceSet.accepts (.object []) := by
  obtain ⟨inserted, scalar⟩ := accepts_insert_null presenceSet
  exact ⟨inserted "a" [("7", .null)] [("b", .bool true)] (by decide), scalar (.string "a") rfl⟩

end ConditionSet

end RecordFilter
