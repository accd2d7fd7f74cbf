import RecordFilter.Evaluation

/-! Resolving a set either fails at its first unknown operator or keeps
the meaning of every condition. -/

namespace RecordFilter

namespace Logged

variable {α β : Type}

/-- A value alone is the result. -/
@[simp] theorem result_pure (value : α) : (pure value : Logged α).result = .ok value := rfl

/-- The result of two steps is that of the second, where the first has one. -/
@[simp] theorem result_bind (first : Logged α) (next : α → Logged β) :
    (first >>= next).result = first.result.bind fun value => (next value).result := by
  obtain ⟨events, result⟩ := first
  cases result <;> rfl

/-- Success has its value for a result. -/
@[simp] theorem result_ok (value : α) : (Logged.ok value).result = .ok value := rfl

/-- A failure has itself for a result. -/
@[simp] theorem result_fail (failure : Failure) :
    (Logged.fail failure : Logged α).result = .error failure := rfl

/-- To report events changes no result. -/
@[simp] theorem result_emit (events : List Event) : (Logged.emit events).result = .ok () := rfl

end Logged

namespace Condition

/-- Whether no operator has the token of a condition. -/
def isUnknown (condition : Condition) : Bool :=
  !Operator.isAllowed condition.operator

variable [Pattern.Engine]

/-- A condition with a given operator resolved. -/
def resolved (condition : Condition) (operator : Operator) : CompiledCondition :=
  ⟨.field condition.key,
    if operator.isPattern then .pattern (operator.regex? condition.operand)
    else .predicate operator condition.operand⟩

/-- A condition resolved, if there is an operator of its token. -/
def resolved? (condition : Condition) : Option CompiledCondition :=
  (Operator.ofToken? condition.operator).map condition.resolved

/-- Reading the pattern in advance gives what the operator would read, with a warning at most. -/
theorem compilePattern_result (operator : Operator) (operand : Json) :
    (compilePattern operator operand).result = .ok (operator.regex? operand) := by
  unfold compilePattern Operator.regex?
  -- An operand without a text form makes no pattern, and a pattern
  -- that is refused only adds a warning.
  cases operator.pattern? operand with
  | none => rfl
  | some source => cases compiled : Pattern.compile? source <;> simp [compiled]

/-- A condition is resolved unless no operator has its token. -/
theorem compile_result (condition : Condition) :
    condition.compile.result =
      match condition.resolved? with
      | some compiled => .ok compiled
      | none => .error (.conditionNotAllowed condition.operator) := by
  unfold compile resolveOperator Operator.ofToken resolved?
  cases Operator.ofToken? condition.operator with
  | none => rfl
  | some operator =>
    -- Pattern operators take one step more, and it always succeeds.
    by_cases pattern : operator.isPattern = true
    · simp [pattern, resolved, compilePattern_result, Except.bind]
    · simp [pattern, resolved]

/-- A resolved condition tests what the operator says of the field and the operand. -/
theorem resolved_holds (condition : Condition) (operator : Operator) (record : Json) :
    (condition.resolved operator).holds record =
      operator.test (record.child (.field condition.key)) condition.operand := by
  -- The two pattern operators are read in advance, and all others are applied as they are.
  cases operator <;> rfl

/-- A condition is unknown exactly when it cannot be resolved. -/
theorem isUnknown_eq (condition : Condition) :
    condition.isUnknown = condition.resolved?.isNone := by
  simp [isUnknown, Operator.isAllowed, resolved?]

/-- The conditions of a group are resolved up to the first with an unknown operator. -/
theorem compileGroup_result (group : ConditionGroup) :
    (compileGroup group).result =
      match group.find? isUnknown with
      | some condition => .error (.conditionNotAllowed condition.operator)
      | none => .ok (group.filterMap resolved?) := by
  induction group with
  | nil => rfl
  | cons condition rest ih =>
    -- The first condition decides, unless it is resolved.
    simp only [compileGroup, Logged.result_bind, compile_result]
    cases found : condition.resolved? with
    | none =>
      have unknown : condition.isUnknown = true := by rw [isUnknown_eq, found, Option.isNone_none]
      rw [List.find?_cons_of_pos unknown]
      rfl
    | some compiled =>
      -- The first condition is known, so the search goes on in the rest.
      have known : ¬condition.isUnknown = true := by simp [isUnknown_eq, found]
      rw [List.find?_cons_of_neg known, List.filterMap_cons_some found, ih]
      cases rest.find? isUnknown <;> rfl

end Condition

namespace ConditionSet

/-- The first condition of a set, group by group, whose operator is unknown. -/
def firstUnknown? (set : ConditionSet) : Option Condition :=
  set.conditions.find? Condition.isUnknown

/-- Empty groups hold no conditions. -/
theorem conditions_withoutEmpty (set : ConditionSet) :
    set.withoutEmpty.conditions = set.conditions := by
  obtain ⟨groups⟩ := set
  simp only [withoutEmpty, conditions]
  induction groups with
  | nil => rfl
  | cons group rest ih => cases group <;> simp [ih]

/-- No operator is unknown exactly when every token is allowed. -/
theorem firstUnknown?_eq_none_iff {set : ConditionSet} :
    set.firstUnknown? = none ↔
      ∀ condition ∈ set.conditions, Operator.isAllowed condition.operator = true := by
  simp [firstUnknown?, Condition.isUnknown]

variable [Pattern.Engine]

/-- Groups are resolved up to the first condition with an unknown
operator, whatever group it is in. -/
theorem compileGroups_result (groups : List ConditionGroup) :
    (compileGroups groups).result =
      match groups.flatten.find? Condition.isUnknown with
      | some condition => .error (.conditionNotAllowed condition.operator)
      | none => .ok (groups.map (·.filterMap Condition.resolved?)) := by
  induction groups with
  | nil => rfl
  | cons group rest ih =>
    -- The first unknown operator of the group comes before any of the later groups.
    simp only [compileGroups, Logged.result_bind, Condition.compileGroup_result, List.flatten_cons,
      List.find?_append, ih]
    cases group.find? Condition.isUnknown with
    | some condition => rfl
    | none => cases rest.flatten.find? Condition.isUnknown <;> rfl

/-- A set is resolved unless an operator is unknown, and then the first one is named. -/
theorem compile_result (set : ConditionSet) :
    set.compile.result =
      match set.firstUnknown? with
      | some condition => .error (.conditionNotAllowed condition.operator)
      | none => .ok (set.withoutEmpty.groups.map (·.filterMap Condition.resolved?)) := by
  -- Leaving out empty groups changes neither the conditions nor their order.
  have same : set.withoutEmpty.groups.flatten = set.conditions := conditions_withoutEmpty set
  rw [compile, compileGroups_result, same, firstUnknown?]

end ConditionSet

end RecordFilter
