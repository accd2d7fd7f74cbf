import RecordFilter.Condition.Builder
import RecordFilter.Proofs.Evaluation.Rearrangement

/-! Sets built from known operators on one key: filtering by them asks the
operators, one group after another. -/

namespace RecordFilter

namespace Operator

/-- An operator is found again by its token. -/
@[simp] theorem ofToken?_token (operator : Operator) : ofToken? operator.token = some operator := by
  cases operator <;> decide

/-- The token of an operator is allowed. -/
@[simp] theorem isAllowed_token (operator : Operator) : isAllowed operator.token = true := by
  simp [isAllowed]

end Operator

/-- The condition that an operator holds between a field and an operand. -/
def Condition.on (key : String) (operator : Operator) (operand : Json) : Condition :=
  ⟨key, operator.token, operand⟩

variable [Pattern.Engine]

/-- What a condition with a known operator says of a record is what
the operator says of the field. -/
theorem Condition.decide_holdsOf_on (key : String) (operator : Operator) (operand record : Json) :
    decide ((Condition.on key operator operand).HoldsOf record) =
      operator.test (record.child (.field key)) operand := by
  -- The token of the operator leads back to it.
  simp [HoldsOf, Condition.on]

namespace ConditionSet

/-- Filtering by a set leaves what a condition on records keeps, of whatever is filtered. -/
structure Keeps (set : ConditionSet) (keep : Json → Bool) : Prop where
  /-- The items of an array that are kept stay in their order. -/
  items (items : List Json) :
    ((Json.array items).evaluate set).result = .ok (.array (items.filter keep))
  /-- The members of an object whose values are kept stay in their order, with their keys. -/
  members (members : List (String × Json)) :
    ((Json.object members).evaluate set).result =
      .ok (.object (members.filter fun member => keep member.2))
  /-- What is neither an array nor an object has no records, and leaves an empty array. -/
  scalars (scalar : Json) (noArray : ∀ items, scalar ≠ .array items)
    (noObject : ∀ members, scalar ≠ .object members) :
    (scalar.evaluate set).result = .ok (.array [])

variable {operands : List Json}

/-- A set keeps what its filter keeps of every collection. -/
theorem keeps_of_evaluate {set : ConditionSet} {keep : Json → Bool}
    (filters : ∀ collection : Json,
      (collection.evaluate set).result = .ok (collection.filterRecords keep)) : set.Keeps keep where
  items items := filters (.array items)
  members members := filters (.object members)
  scalars scalar noArray noObject := by
    -- A scalar has no records to filter.
    rw [filters]
    cases scalar with
    | array items => exact absurd rfl (noArray items)
    | object members => exact absurd rfl (noObject members)
    | _ => rfl

/-- A group for each operand keeps the records for whose field the
operator holds with some operand. -/
theorem evaluate_alternatives (key : String) (operator : Operator) (operands : List Json)
    (collection : Json) :
    (collection.evaluate ⟨operands.map fun operand => [.on key operator operand]⟩).result =
      .ok (collection.filterRecords fun record =>
        operands.any (operator.test (record.child (.field key)))) := by
  -- The operators are known by their tokens, so the set is not refused.
  have known : ∀ condition ∈
      (ConditionSet.mk (operands.map fun operand => [.on key operator operand])).conditions,
      Operator.isAllowed condition.operator = true := by
    simp only [conditions, List.mem_flatten, List.mem_map]
    rintro condition ⟨group, ⟨operand, _, rfl⟩, inside⟩
    obtain rfl := List.mem_singleton.mp inside
    exact operator.isAllowed_token
  rw [evaluate_of_known known]
  -- Every group holds a condition, and just one.
  simp [decide_satisfiedBy, Condition.decide_holdsOf_on, List.any_map, Function.comp_def]

/-- One group for all operands keeps the records for whose field the
operator holds with every operand. -/
theorem evaluate_conjunction (key : String) (operator : Operator) (some_ : operands ≠ [])
    (collection : Json) :
    (collection.evaluate ⟨[operands.map (Condition.on key operator)]⟩).result =
      .ok (collection.filterRecords fun record =>
        operands.all (operator.test (record.child (.field key)))) := by
  have known : ∀ condition ∈
      (ConditionSet.mk [operands.map (Condition.on key operator)]).conditions,
      Operator.isAllowed condition.operator = true := by
    simp [conditions, Condition.on]
  rw [evaluate_of_known known]
  -- An empty group would keep nothing, although every operator holds with all of no operands.
  have inhabited : operands.isEmpty = false := by simpa using some_
  simp [decide_satisfiedBy, Condition.decide_holdsOf_on, List.all_map, Function.comp_def, inhabited]

end ConditionSet

namespace ConditionBuilder

/-- A filter with a single condition keeps the records for whose field the operator holds. -/
theorem evaluate_whereOperator (key : String) (operator : Operator) (operand collection : Json) :
    (collection.evaluate (new.whereOperator key operator operand).build).result =
      .ok (collection.filterRecords fun record =>
        operator.test (record.child (.field key)) operand) := by
  -- The filter has one alternative.
  have kept := ConditionSet.evaluate_alternatives key operator [operand] collection
  simp only [List.any_cons, List.any_nil, Bool.or_false] at kept
  exact kept

/-- So it keeps just these records, whatever is filtered. -/
theorem keeps_whereOperator (key : String) (operator : Operator) (operand : Json) :
    (new.whereOperator key operator operand).build.Keeps fun record =>
      operator.test (record.child (.field key)) operand :=
  ConditionSet.keeps_of_evaluate (evaluate_whereOperator key operator operand)

end ConditionBuilder

end RecordFilter
