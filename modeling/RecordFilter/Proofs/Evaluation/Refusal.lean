import Mathlib.Data.List.TakeWhile
import RecordFilter.Proofs.Evaluation.Meaning

/-! A set with an unknown operator is refused before any record
is visited, whatever the data are. -/

namespace RecordFilter

namespace Logged

variable {α β : Type}

/-- A value alone reports nothing. -/
@[simp] theorem events_pure (value : α) : (pure value : Logged α).events = [] := rfl

/-- The events of two steps are those of the first, and those of the second where it is taken. -/
theorem events_bind (first : Logged α) (next : α → Logged β) :
    (first >>= next).events =
      first.events ++ match first.result with
        | .ok value => (next value).events
        | .error _ => [] := by
  obtain ⟨events, result⟩ := first
  cases result with
  | error failure => exact (List.append_nil events).symm
  | ok value => rfl

/-- A step that fails is all that is left of the steps that begin with it. -/
theorem bind_of_error {first : Logged α} {failure : Failure} (next : α → Logged β)
    (failed : first.result = .error failure) :
    first >>= next = ⟨first.events, .error failure⟩ := by
  obtain ⟨events, result⟩ := first
  obtain rfl : result = .error failure := failed
  rfl

end Logged

namespace Condition

/-- The conditions in front of the first unknown one are those that are known. -/
theorem takeWhile_known {known others : List Condition} {condition : Condition}
    (all : ∀ other ∈ known, other.isUnknown = false) (unknown : condition.isUnknown = true) :
    (known ++ condition :: others).takeWhile (!·.isUnknown) = known := by
  rw [List.takeWhile_append_of_pos fun other inside => by simp [all other inside],
    List.takeWhile_cons_of_neg (by simp [unknown]), List.append_nil]

/-- Only the operators that read patterns make them. -/
theorem pattern?_eq_none {operator : Operator} (plain : operator.isPattern = false)
    (operand : Json) : operator.pattern? operand = none := by
  unfold Operator.pattern?
  -- Without a text there is no pattern whatever the operator is.
  cases operand.fieldText? with
  | none => rfl
  | some text => cases operator <;> first | rfl | exact absurd plain (by decide)

variable [Pattern.Engine]

/-- The warnings about a condition: one where its operator makes a pattern that does not compile. -/
def warnings (condition : Condition) : List Event :=
  let source := (Operator.ofToken? condition.operator).bind (·.pattern? condition.operand)
  -- Operators that read no pattern make none, and so give no warning.
  ((source.filter fun text => (Pattern.compile? text).isNone).map fun text =>
    .patternNeverMatches text (Pattern.Engine.complaint? text)).toList

/-- A warning names the source of a pattern that does not compile, and why it does not. -/
theorem mem_warnings_iff {condition : Condition} {event : Event} :
    event ∈ condition.warnings ↔
      ∃ operator source, Operator.ofToken? condition.operator = some operator ∧
        operator.pattern? condition.operand = some source ∧ Pattern.compile? source = none ∧
        event = .patternNeverMatches source (Pattern.Engine.complaint? source) := by
  simp only [warnings, Option.mem_toList, Option.map_eq_some_iff, Option.filter_eq_some_iff,
    Option.bind_eq_some_iff, Option.isNone_iff_eq_none]
  constructor
  · rintro ⟨source, ⟨⟨operator, named, made⟩, refused⟩, rfl⟩
    exact ⟨operator, source, named, made, refused, rfl⟩
  · rintro ⟨operator, source, named, made, refused, rfl⟩
    exact ⟨source, ⟨⟨operator, named, made⟩, refused⟩, rfl⟩

/-- Compiling a pattern in advance is reported only where it fails. -/
theorem compilePattern_events (operator : Operator) (operand : Json) :
    (compilePattern operator operand).events =
      (((operator.pattern? operand).filter fun source => (Pattern.compile? source).isNone).map
        fun source => .patternNeverMatches source (Pattern.Engine.complaint? source)).toList := by
  unfold compilePattern
  -- An operand without a text makes no pattern, and nothing is compiled.
  cases operator.pattern? operand with
  | none => rfl
  | some source =>
    cases compiled : Pattern.compile? source <;> simp [compiled, Logged.ok, Option.filter]

/-- Resolving a condition reports its warnings. -/
theorem compile_events (condition : Condition) : condition.compile.events = condition.warnings := by
  unfold compile resolveOperator Operator.ofToken warnings
  cases Operator.ofToken? condition.operator with
  | none => rfl
  | some operator =>
    cases kind : operator.isPattern with
    | false =>
      simp only [kind, Bool.false_eq_true, if_false, Option.bind_some, pattern?_eq_none kind]
      rfl
    | true =>
      -- Nothing more is reported once the pattern has been read.
      simp only [kind, if_true, Logged.events_bind, compilePattern_events, compilePattern_result,
        Logged.events_pure, List.append_nil, Option.bind_some]

/-- Resolving a group reports the warnings about the conditions
in front of the first unknown one. -/
theorem compileGroup_events (group : ConditionGroup) :
    (compileGroup group).events = (group.takeWhile (!·.isUnknown)).flatMap warnings := by
  induction group with
  | nil => rfl
  | cons condition rest ih =>
    rw [compileGroup, Logged.events_bind, compile_events, compile_result]
    cases found : condition.resolved? with
    | none =>
      -- An unknown operator makes no pattern, and stops the group.
      have unknown : condition.isUnknown = true := by rw [isUnknown_eq, found, Option.isNone_none]
      have unnamed : Operator.ofToken? condition.operator = none := by simpa [resolved?] using found
      simp [unknown, warnings, unnamed]
    | some compiled =>
      have known : condition.isUnknown = false := by rw [isUnknown_eq, found, Option.isNone_some]
      simp only [Logged.events_bind, ih, List.takeWhile_cons, known, Bool.not_false, if_true,
        List.flatMap_cons]
      cases (compileGroup rest).result <;> simp

end Condition

namespace ConditionSet

section Engine

variable [Pattern.Engine]

/-- Resolving groups reports the warnings about the conditions in front of the first unknown one. -/
theorem compileGroups_events (groups : List ConditionGroup) :
    (compileGroups groups).events =
      (groups.flatten.takeWhile (!·.isUnknown)).flatMap Condition.warnings := by
  induction groups with
  | nil => rfl
  | cons group rest ih =>
    rw [compileGroups, Logged.events_bind, Condition.compileGroup_events,
      Condition.compileGroup_result, List.flatten_cons]
    cases found : group.find? Condition.isUnknown with
    | some condition =>
      -- The first unknown condition lies in this group, so the later ones are not looked at.
      obtain ⟨unknown, known, others, rfl, all⟩ := List.find?_eq_some_iff_append.mp found
      have all : ∀ other ∈ known, other.isUnknown = false := by simpa using all
      rw [List.append_assoc, List.cons_append, Condition.takeWhile_known all unknown,
        Condition.takeWhile_known all unknown, List.append_nil]
    | none =>
      -- A group without an unknown condition reports all its warnings, and the rest goes on.
      have all : ∀ other ∈ group, (!other.isUnknown) = true := by simpa using found
      rw [List.takeWhile_append_of_pos all, List.takeWhile_eq_self_iff.mpr all, List.flatMap_append]
      simp only [Logged.events_bind, ih]
      cases (compileGroups rest).result <;> simp

/-- Resolving a set reports the warnings about its conditions up to the first unknown one. -/
theorem compile_events (set : ConditionSet) :
    set.compile.events = (set.conditions.takeWhile (!·.isUnknown)).flatMap Condition.warnings := by
  have same : set.withoutEmpty.groups.flatten = set.conditions := conditions_withoutEmpty set
  rw [compile, compileGroups_events, same]

/-- A set is refused with the first unknown condition, after the warnings about those before it. -/
theorem compile_refused {set : ConditionSet} {known others : List Condition} {condition : Condition}
    (parts : set.conditions = known ++ condition :: others)
    (all : ∀ other ∈ known, Operator.isAllowed other.operator = true)
    (unknown : Operator.isAllowed condition.operator = false) :
    set.compile.events = known.flatMap Condition.warnings ∧
      set.compile.result = .error (.conditionNotAllowed condition.operator) := by
  have all : ∀ other ∈ known, other.isUnknown = false := by simpa [Condition.isUnknown] using all
  have unknown : condition.isUnknown = true := by simp [Condition.isUnknown, unknown]
  -- No condition in front is unknown, so this one is found first.
  have first : set.firstUnknown? = some condition :=
    List.find?_eq_some_iff_append.mpr ⟨unknown, known, others, parts, by simpa using all⟩
  rw [compile_events, parts, Condition.takeWhile_known all unknown, compile_result, first]
  exact ⟨rfl, rfl⟩

/-- Resolving a set fails exactly where some operator of it is unknown. -/
theorem compile_fails_iff {set : ConditionSet} :
    (∃ failure, set.compile.result = .error failure) ↔
      ∃ group ∈ set.groups, ∃ condition ∈ group, Operator.isAllowed condition.operator = false := by
  -- It does not matter in which group an unknown operator stands.
  have inSome : (∃ group ∈ set.groups, ∃ condition ∈ group,
      Operator.isAllowed condition.operator = false) ↔ set.firstUnknown? ≠ none := by
    rw [Ne, firstUnknown?_eq_none_iff, conditions]
    simp only [List.forall_mem_flatten, not_forall, Bool.not_eq_true, exists_prop]
  rw [inSome, compile_result]
  cases set.firstUnknown? <;> simp

/-- Filtering goes no further than the set, if that is not resolved. -/
theorem evaluate_of_error {set : ConditionSet} {failure : Failure} (collection : Json)
    (failed : set.compile.result = .error failure) :
    collection.evaluate set = ⟨set.compile.events, .error failure⟩ :=
  Logged.bind_of_error _ failed

/-- A single record is not looked at either, if the set is not resolved. -/
theorem accepts_of_error {set : ConditionSet} {failure : Failure} (record : Json)
    (failed : set.compile.result = .error failure) :
    set.accepts record = ⟨set.compile.events, .error failure⟩ :=
  Logged.bind_of_error _ failed

/--
A set is refused exactly where some condition of it has a token that names no operator, whatever
is filtered by it. The failure names the first such token, and before it nothing is reported but a
warning for each condition in front whose operand is no valid pattern: no record is looked at.
-/
theorem evaluate_refuses_unknown (set : ConditionSet) :
    (∀ collection : Json, (∃ failure, (collection.evaluate set).result = .error failure) ↔
      ∃ group ∈ set.groups, ∃ condition ∈ group, Operator.isAllowed condition.operator = false) ∧
    (∀ record, (∃ failure, (set.accepts record).result = .error failure) ↔
      ∃ group ∈ set.groups, ∃ condition ∈ group, Operator.isAllowed condition.operator = false) ∧
    ∀ known condition others, set.groups.flatten = known ++ condition :: others →
      (∀ other ∈ known, Operator.isAllowed other.operator = true) →
      Operator.isAllowed condition.operator = false →
      (∀ collection : Json, collection.evaluate set =
        ⟨known.flatMap Condition.warnings, .error (.conditionNotAllowed condition.operator)⟩) ∧
      (∀ record, set.accepts record =
        ⟨known.flatMap Condition.warnings, .error (.conditionNotAllowed condition.operator)⟩) ∧
      ∀ event ∈ known.flatMap Condition.warnings, event.level = .warn := by
  refine ⟨fun collection => ?_, fun record => ?_, fun known condition others parts all unknown => ?_⟩
  · -- Once the set is resolved, a collection of any kind is filtered.
    rw [← compile_fails_iff, evaluate_result]
    cases set.compile.result <;> simp [Except.map]
  · rw [← compile_fails_iff, accepts, Logged.result_bind]
    cases set.compile.result <;> simp [Except.bind]
  · obtain ⟨events, failed⟩ := compile_refused parts all unknown
    refine ⟨fun collection => ?_, fun record => ?_, fun event inside => ?_⟩
    · rw [evaluate_of_error collection failed, events]
    · rw [accepts_of_error record failed, events]
    · -- Every event is the warning about some condition in front.
      obtain ⟨other, _, warned⟩ := List.mem_flatMap.mp inside
      obtain ⟨_, _, _, _, _, rfl⟩ := Condition.mem_warnings_iff.mp warned
      rfl

end Engine

/-- An empty group, an invalid pattern in front of an unknown token, and others behind it. -/
def refusedSet : ConditionSet :=
  ⟨[[], [⟨"a", "match", .string "("⟩, ⟨"b", "=", .null⟩], [⟨"c", "~=", .null⟩],
    [⟨"d", "startswith", .string "["⟩, ⟨"e", "IN", .array []⟩]]⟩

/-- The unknown token is named for a scalar as well, after a warning
for the pattern in front of it. -/
theorem evaluate_refusedSet :
    (Json.null.evaluate refusedSet).result = .error (.conditionNotAllowed "~=") ∧
      (Json.null.evaluate refusedSet).events = [.patternNeverMatches "^(?:()$".toList none] := by
  have invalid : (Pattern.compile? "^(?:()$".toList).isNone = true := by decide +kernel
  have pattern : (Operator.ofToken? "match").bind (·.pattern? (.string "(")) =
      some "^(?:()$".toList := by decide
  have plain : (Operator.ofToken? "=").bind (·.pattern? .null) = none := by decide
  have known : ∀ other ∈ [⟨"a", "match", .string "("⟩, ⟨"b", "=", .null⟩],
      Operator.isAllowed (Condition.operator other) = true := by decide
  obtain ⟨refused, _, _⟩ :=
    (evaluate_refuses_unknown refusedSet).2.2 _ ⟨"c", "~=", .null⟩ _ rfl known (by decide)
  rw [refused]
  refine ⟨rfl, ?_⟩
  simp only [List.flatMap_cons, List.flatMap_nil, Condition.warnings, pattern, plain,
    Option.filter, invalid, if_true, Option.map_some, Option.map_none, Option.toList,
    List.append_nil]
  -- The standard engine has nothing to add.
  rfl

end ConditionSet

end RecordFilter
