import RecordFilter.Proofs.Condition.Reachable
import RecordFilter.Proofs.Evaluation.Refusal

/-! Filtering by a set shows nothing of its empty groups, neither in
what is kept nor in what is reported. -/

namespace RecordFilter

namespace Logged

/-- The lines that are reported, in their order. -/
def lines {α : Type} (logged : Logged α) : List String :=
  logged.events.map Event.line

end Logged

namespace ConditionSet

variable {set : ConditionSet}

/-- Empty groups do not show in the text of a set. -/
theorem display_withoutEmpty : set.withoutEmpty.display = set.display := by
  simp only [display, text, withoutEmpty_withoutEmpty]

/-- Empty groups do not count for whether a set is empty. -/
theorem isEmpty_withoutEmpty : set.withoutEmpty.isEmpty = set.isEmpty := by
  -- Both sets have the same conditions, and are empty when there are none.
  rw [Bool.eq_iff_iff, isEmpty_iff, isEmpty_iff, conditions_withoutEmpty]

variable [Pattern.Engine]

/-- Empty groups are left out before a set is resolved. -/
theorem compile_withoutEmpty : set.withoutEmpty.compile = set.compile := by
  simp only [compile, withoutEmpty_withoutEmpty]

/-- A single record is judged without the empty groups, with the same reports. -/
theorem accepts_withoutEmpty (record : Json) : set.withoutEmpty.accepts record = set.accepts record := by
  simp only [accepts, compile_withoutEmpty]

end ConditionSet

namespace Json

variable [Pattern.Engine] {set : ConditionSet}

/-- The events of filtering once a set is resolved: what is rejected,
a scalar, and how much is kept. -/
def filterEvents (collection : Json) (set : ConditionSet) (compiled : CompiledSet) : List Event :=
  (collection.records.filter fun record => !compiled.accepts record).map .rejected ++
    (if collection.isScalar then [.scalarCollection] else []) ++
    [.matched (collection.filterRecords compiled.accepts).recordCount collection.recordCount set]

/-- Filtering reports what resolving the set does, and then what becomes of the records. -/
theorem evaluate_events (collection : Json) (set : ConditionSet) :
    (collection.evaluate set).events =
      set.compile.events ++ match set.compile.result with
        | .ok compiled => collection.filterEvents set compiled
        | .error _ => [] := by
  rw [evaluate, Logged.events_bind]
  cases set.compile.result with
  | error failure => rfl
  | ok compiled =>
    -- The three kinds of events are emitted one after another, and nothing fails between them.
    simp [Logged.events_bind, Logged.emit, filterEvents]

/-- The lines about the records name the set by its text alone. -/
theorem filterEvents_withoutEmpty (collection : Json) (compiled : CompiledSet) :
    (collection.filterEvents set.withoutEmpty compiled).map Event.line =
      (collection.filterEvents set compiled).map Event.line := by
  -- Only the last line shows the set, and it shows its text.
  simp [filterEvents, Event.line, Event.level, Event.text, ConditionSet.display_withoutEmpty]

/-- Filtering gives the same result without the empty groups. -/
theorem evaluate_withoutEmpty_result (collection : Json) :
    (collection.evaluate set.withoutEmpty).result = (collection.evaluate set).result := by
  rw [ConditionSet.evaluate_result, ConditionSet.evaluate_result, ConditionSet.compile_withoutEmpty]

/-- Filtering reports the same lines without the empty groups. -/
theorem evaluate_withoutEmpty_lines (collection : Json) :
    (collection.evaluate set.withoutEmpty).lines = (collection.evaluate set).lines := by
  simp only [Logged.lines, evaluate_events, ConditionSet.compile_withoutEmpty, List.map_append]
  -- Resolving is the same for both, so only what follows a success can differ.
  cases set.compile.result with
  | error failure => rfl
  | ok compiled => rw [filterEvents_withoutEmpty]

end Json

end RecordFilter
