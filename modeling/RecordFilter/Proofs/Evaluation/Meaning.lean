import RecordFilter.Pattern.Standard
import RecordFilter.Proofs.Evaluation.Resolution

/-! Filtering keeps the records that satisfy some group of conditions,
in whatever collection they lie. -/

namespace RecordFilter

namespace Condition

variable [Pattern.Engine]

/-- A condition holds of a record if its operator does between the field and the operand. -/
def HoldsOf (condition : Condition) (record : Json) : Prop :=
  ∃ operator ∈ Operator.ofToken? condition.operator,
    operator.test (record.child (.field condition.key)) condition.operand = true

instance (condition : Condition) (record : Json) : Decidable (condition.HoldsOf record) :=
  inferInstanceAs (Decidable (∃ operator ∈ Operator.ofToken? condition.operator, _))

end Condition

namespace ConditionSet

variable [Pattern.Engine]

/-- A record satisfies a set if all conditions of a group hold of it, and the group has some. -/
def SatisfiedBy (set : ConditionSet) (record : Json) : Prop :=
  ∃ group ∈ set.groups, group ≠ [] ∧ ∀ condition ∈ group, condition.HoldsOf record

instance (set : ConditionSet) (record : Json) : Decidable (set.SatisfiedBy record) :=
  decidable_of_iff
    (∃ group ∈ set.groups, group.isEmpty = false ∧ ∀ condition ∈ group, condition.HoldsOf record)
    (by simp [SatisfiedBy])

end ConditionSet

namespace Condition

variable [Pattern.Engine]

/-- The resolved conditions of a group all hold where the conditions do. -/
theorem all_resolved {group : ConditionGroup}
    (known : ∀ condition ∈ group, Operator.isAllowed condition.operator = true) (record : Json) :
    (group.filterMap resolved?).all (·.holds record) =
      decide (∀ condition ∈ group, condition.HoldsOf record) := by
  induction group with
  | nil => simp
  | cons condition rest ih =>
    -- A known operator resolves its condition, so none is lost from the group.
    have others := ih fun other inside => known other (by simp [inside])
    have allowed := known condition (by simp)
    -- An allowed token names an operator, which is the one that the semantics finds as well.
    obtain ⟨operator, named⟩ := Option.isSome_iff_exists.mp allowed
    have resolved : condition.resolved? = some (condition.resolved operator) := by
      simp [resolved?, named]
    have same : (condition.resolved operator).holds record = decide (condition.HoldsOf record) := by
      simp [resolved_holds, HoldsOf, named]
    simp [resolved, same, others]

end Condition

namespace ConditionSet

section Engine

variable [Pattern.Engine]

/-- A set without unknown operators is resolved into one that accepts what satisfies it. -/
theorem exists_compiled {set : ConditionSet}
    (known : ∀ condition ∈ set.conditions, Operator.isAllowed condition.operator = true) :
    ∃ compiled : CompiledSet, set.compile.result = .ok compiled ∧
      ∀ record, compiled.accepts record = decide (set.SatisfiedBy record) := by
  refine ⟨_, by rw [compile_result, firstUnknown?_eq_none_iff.mpr known], fun record => ?_⟩
  -- Known operators are only asked of the groups that are left.
  have members : ∀ group ∈ set.withoutEmpty.groups, ∀ condition ∈ group,
      Operator.isAllowed condition.operator = true := by
    intro group inGroups condition inGroup
    exact known condition
      (List.mem_flatten.mpr ⟨group, (List.mem_filter.mp inGroups).1, inGroup⟩)
  -- The groups that are resolved are exactly those of the set that hold conditions.
  rw [CompiledSet.accepts, List.any_map, Bool.eq_iff_iff, List.any_eq_true, decide_eq_true_iff]
  constructor
  · -- A group that accepts is one of the set, and holds conditions since none is left empty.
    rintro ⟨group, inGroups, all⟩
    simp only [Function.comp_apply, Condition.all_resolved (members group inGroups),
      decide_eq_true_iff] at all
    obtain ⟨inside, inhabited⟩ := List.mem_filter.mp inGroups
    exact ⟨group, inside, by simpa using inhabited, all⟩
  · -- A group that holds conditions is not left out, and accepts what satisfies it.
    rintro ⟨group, inside, inhabited, all⟩
    have inGroups : group ∈ set.withoutEmpty.groups :=
      List.mem_filter.mpr ⟨inside, by simpa using inhabited⟩
    refine ⟨group, inGroups, ?_⟩
    simpa only [Function.comp_apply, Condition.all_resolved (members group inGroups),
      decide_eq_true_iff] using all

/-- The result of filtering depends on the events and the records only through the resolved set. -/
theorem evaluate_result (collection : Json) (set : ConditionSet) :
    (collection.evaluate set).result =
      set.compile.result.map fun compiled => collection.filterRecords compiled.accepts := by
  unfold Json.evaluate
  -- The events that are emitted on the way do not touch the result.
  cases resolved : set.compile.result <;> simp [resolved, Except.bind, Except.map]

/-- Filtering by known operators keeps the records that satisfy the set. -/
theorem evaluate_of_known {set : ConditionSet}
    (known : ∀ condition ∈ set.conditions, Operator.isAllowed condition.operator = true)
    (collection : Json) :
    (collection.evaluate set).result =
      .ok (collection.filterRecords fun record => decide (set.SatisfiedBy record)) := by
  obtain ⟨compiled, resolved, accepts⟩ := exists_compiled known
  -- The resolved set and the semantics agree on every record, so they filter alike.
  have same : compiled.accepts = fun record => decide (set.SatisfiedBy record) := funext accepts
  rw [evaluate_result, resolved]
  simp only [Except.map, same]

/--
Filtering a collection by known operators keeps exactly the records that satisfy the set: items and
members in their order, and nothing of a scalar. Single records are judged alike, and a condition
that is resolved once, its pattern included, says of every record what its operator says.
-/
theorem evaluate_keeps_satisfying (set : ConditionSet)
    (known : ∀ condition ∈ set.conditions, Operator.isAllowed condition.operator = true) :
    (∀ items, ((Json.array items).evaluate set).result =
      .ok (.array (items.filter fun record => decide (set.SatisfiedBy record)))) ∧
    (∀ members, ((Json.object members).evaluate set).result =
      .ok (.object (members.filter fun member => decide (set.SatisfiedBy member.2)))) ∧
    (∀ scalar : Json, scalar.isScalar = true → (scalar.evaluate set).result = .ok (.array [])) ∧
    (∀ record, (set.accepts record).result = .ok (decide (set.SatisfiedBy record))) ∧
    ∀ condition ∈ set.conditions, ∀ operator,
      Operator.ofToken? condition.operator = some operator →
      ∃ compiled, condition.compile.result = .ok compiled ∧
        (operator.isPattern = true →
          compiled.test = .pattern (operator.regex? condition.operand)) ∧
        ∀ record, compiled.holds record =
          operator.test (record.child (.field condition.key)) condition.operand := by
  refine ⟨fun items => evaluate_of_known known _, fun members => evaluate_of_known known _,
    ?_, ?_, ?_⟩
  · intro scalar isScalar
    -- Arrays and objects are excluded, and every other document gives an empty array.
    rw [evaluate_of_known known]
    cases scalar <;> first | rfl | simp [Json.isScalar] at isScalar
  · intro record
    obtain ⟨compiled, resolved, accepts⟩ := exists_compiled known
    simp [ConditionSet.accepts, resolved, accepts, Except.bind]
  · intro condition _ operator named
    -- Resolving reads the pattern once, and the operator reads it anew for every record.
    refine ⟨condition.resolved operator, ?_, ?_, condition.resolved_holds operator⟩
    · simp [Condition.compile_result, Condition.resolved?, named]
    · intro pattern
      simp [Condition.resolved, pattern]

end Engine

/-- An empty group, a group with a pattern, and a group that asks for a field. -/
def patternOrField : ConditionSet :=
  ⟨[[], [⟨"name", "match", .string "R.x"⟩], [⟨"vip", "notnull", .null⟩]]⟩

/-- Of four records the pattern keeps two, the field keeps one, and the empty group keeps none. -/
theorem evaluate_patternOrField :
    ((Json.array [.object [("name", .string "Rex")], .object [("name", .string "Rexy")],
        .object [("vip", .bool false)], .object [("name", .string "R-x")]]).evaluate
          patternOrField).result =
      .ok (.array [.object [("name", .string "Rex")], .object [("vip", .bool false)],
        .object [("name", .string "R-x")]]) := by
  have known : ∀ condition ∈ patternOrField.conditions,
      Operator.isAllowed condition.operator = true := by decide
  have matched : patternOrField.SatisfiedBy (.object [("name", .string "Rex")]) := by decide +kernel
  have missed : ¬patternOrField.SatisfiedBy (.object [("name", .string "Rexy")]) := by decide +kernel
  have present : patternOrField.SatisfiedBy (.object [("vip", .bool false)]) := by decide +kernel
  have again : patternOrField.SatisfiedBy (.object [("name", .string "R-x")]) := by decide +kernel
  rw [(evaluate_keeps_satisfying patternOrField known).1]
  simp [matched, missed, present, again]

end ConditionSet

end RecordFilter
