import RecordFilter.Proofs.Evaluation.EmptyGroups
import RecordFilter.Proofs.Pattern.Anchoring

/-! What filtering reports: every pattern that fails once, and every
record that is not kept once. -/

namespace RecordFilter

namespace Condition

variable [Pattern.Engine]

/-- The pattern that the operator of a condition makes of the text of
the operand, if it does not compile. -/
def invalidPattern? (condition : Condition) : Option (List Char) :=
  match Operator.ofToken? condition.operator, condition.operand.fieldText? with
  | some operator, some text =>
    if operator.isPattern && (Pattern.compile? (operator.wrapped text)).isNone then
      some (operator.wrapped text)
    else none
  -- Arrays and objects have no text, and make no pattern that could be invalid.
  | _, _ => none

/-- The warning about a pattern, with what the engine tells of it. -/
def warning (source : List Char) : Event :=
  .patternNeverMatches source (Pattern.Engine.complaint? source)

/-- A condition is warned about where it makes an invalid pattern. -/
theorem warnings_eq (condition : Condition) :
    condition.warnings = (condition.invalidPattern?.map warning).toList := by
  unfold warnings invalidPattern?
  -- A token without an operator, a value without a text and an operator
  -- without a pattern warn of nothing.
  cases Operator.ofToken? condition.operator with
  | none => rfl
  | some operator =>
    cases operandText : condition.operand.fieldText? with
    | none => simp [Operator.pattern?, operandText]
    | some text =>
      cases kind : operator.isPattern with
      | false => simp [pattern?_eq_none kind, kind]
      | true =>
        have source := Operator.pattern?_eq kind operandText
        cases compiled : Pattern.compile? (operator.wrapped text) <;>
          simp [source, kind, compiled, Option.filter, warning]

/-- Conditions are warned about one after another, each at most once. -/
theorem flatMap_warnings (conditions : List Condition) :
    conditions.flatMap warnings = (conditions.filterMap invalidPattern?).map warning := by
  induction conditions with
  | nil => rfl
  | cons condition rest ih =>
    rw [List.flatMap_cons, ih, warnings_eq]
    -- A condition adds its one warning, or nothing.
    cases invalid : condition.invalidPattern? <;> simp [invalid]

end Condition

namespace Event

/-- The line about a pattern quotes it, and adds the complaint about it. -/
theorem line_patternNeverMatches (source : List Char) (complaint : Option String) :
    (patternNeverMatches source complaint).line =
      "WARN pattern " ++ String.ofList (Text.quoted source) ++ " never matches" ++
        (complaint.map (": " ++ ·)).getD "" := by
  have start : "WARN pattern " = "WARN" ++ " " ++ "pattern " := by decide
  simp only [line, level, Level.name, text, start, String.append_assoc]

/-- The line about a record shows all of it. -/
theorem line_rejected (record : Json) : (rejected record).line = "TRACE rejected " ++ record.compact := by
  have start : "TRACE rejected " = "TRACE" ++ " " ++ "rejected " := by decide
  simp only [line, level, Level.name, text, start, String.append_assoc]

/-- The line about a scalar is always the same. -/
theorem line_scalarCollection :
    scalarCollection.line = "DEBUG collection is a scalar, nothing to filter" := by
  decide

/-- The line about the outcome counts the records, and shows the conditions. -/
theorem line_matched (kept total : Nat) (set : ConditionSet) :
    (matched kept total set).line =
      "DEBUG " ++ countText kept ++ " of " ++ countText total ++ " records matched \x60" ++
        set.display ++ "\x60" := by
  have start : "DEBUG " = "DEBUG" ++ " " := by decide
  simp only [line, level, Level.name, text, start, String.append_assoc]

end Event

namespace Json

variable {keep : Json → Bool}

/-- The size of a collection is the number of its records. -/
theorem recordCount_eq (collection : Json) : collection.recordCount = collection.records.length := by
  cases collection with
  -- The records of an object are its values, as many as it has members.
  | object members => exact (List.length_map Prod.snd).symm
  | _ => rfl

/-- The records of what is kept are those of the collection that are kept. -/
theorem records_filterRecords (collection : Json) :
    (collection.filterRecords keep).records = collection.records.filter keep := by
  cases collection with
  | object members =>
    -- Members are kept by their values, which are the records.
    rw [records, List.filter_map]
    rfl
  | _ => rfl

end Json

namespace ConditionSet

variable {set : ConditionSet}

section Engine

variable [Pattern.Engine]

/-- Resolving known operators reports the invalid patterns among the conditions, in their order. -/
theorem compile_events_of_known
    (known : ∀ condition ∈ set.conditions, Operator.isAllowed condition.operator = true) :
    set.compile.events =
      (set.conditions.filterMap Condition.invalidPattern?).map Condition.warning := by
  have all : ∀ condition ∈ set.conditions, (!condition.isUnknown) = true := by
    simpa [Condition.isUnknown] using known
  -- No operator is unknown, so no condition is left out.
  rw [compile_events, List.takeWhile_eq_self_iff.mpr all, Condition.flatMap_warnings]

/-- Filtering by known operators reports invalid patterns, what is not kept, and how much is. -/
theorem evaluate_events_of_known
    (known : ∀ condition ∈ set.conditions, Operator.isAllowed condition.operator = true)
    (collection : Json) :
    (collection.evaluate set).events =
      (set.conditions.filterMap Condition.invalidPattern?).map Condition.warning ++
        (collection.records.filter fun record => !decide (set.SatisfiedBy record)).map .rejected ++
        (if collection.isScalar then [.scalarCollection] else []) ++
        [.matched (collection.filterRecords fun record => decide (set.SatisfiedBy record)).recordCount
          collection.recordCount set] := by
  obtain ⟨compiled, resolved, accepts⟩ := exists_compiled known
  -- The records that the resolved set does not accept are those that do not satisfy the set.
  have same : compiled.accepts = fun record => decide (set.SatisfiedBy record) := funext accepts
  rw [Json.evaluate_events, resolved, compile_events_of_known known]
  simp only [Json.filterEvents, same, List.append_assoc]

/--
Filtering by known operators reports, in this order, a warning for each condition whose operator
makes an invalid pattern of the text of its operand, whatever there is to filter; a trace of each
record that is not kept, in the order of the collection; a notice if the collection is a scalar; and
how many of how many records are kept. So every record is either kept or traced, and only once.
-/
theorem evaluate_reports_once (set : ConditionSet)
    (known : ∀ condition ∈ set.conditions, Operator.isAllowed condition.operator = true)
    (collection : Json) :
    let keep := fun record => decide (set.SatisfiedBy record)
    let kept := collection.filterRecords keep
    (collection.evaluate set).result = .ok kept ∧
      kept.records = collection.records.filter keep ∧
      (collection.evaluate set).lines =
        (set.conditions.filterMap Condition.invalidPattern?).map (fun source =>
            "WARN pattern " ++ String.ofList (Text.quoted source) ++ " never matches" ++
              ((Pattern.Engine.complaint? source).map (": " ++ ·)).getD "") ++
          (collection.records.filter fun record => !keep record).map (fun record =>
            "TRACE rejected " ++ record.compact) ++
          (if collection.isScalar then ["DEBUG collection is a scalar, nothing to filter"] else []) ++
          ["DEBUG " ++ Event.countText kept.recordCount ++ " of " ++
            Event.countText collection.recordCount ++ " records matched \x60" ++ set.display ++
            "\x60"] ∧
      ((collection.evaluate set).events.filter fun event => event.level == .trace).length +
        kept.recordCount = collection.recordCount := by
  intro keep kept
  have events := evaluate_events_of_known known collection
  refine ⟨evaluate_of_known known collection, Json.records_filterRecords collection, ?_, ?_⟩
  · -- Every event has its line, and a scalar has one event more than a collection.
    rw [Logged.lines, events]
    cases collection.isScalar <;>
      simp [Function.comp_def, Condition.warning, Event.line_patternNeverMatches, Event.line_rejected,
        Event.line_scalarCollection, Event.line_matched, kept, keep]
  · -- Of all the events only the rejections are traces, and they leave the records that are kept.
    have traces : ((collection.evaluate set).events.filter fun event => event.level == .trace) =
        (collection.records.filter fun record => !keep record).map .rejected := by
      rw [events]
      cases collection.isScalar <;>
        simp [List.filter_map, Condition.warning, Event.level, Function.comp_def, keep]
    rw [traces, List.length_map, Json.recordCount_eq, Json.recordCount_eq, Json.records_filterRecords]
    -- A record is kept or not, so the two numbers add up.
    have split := List.length_eq_length_filter_add (l := collection.records) keep
    omega

end Engine

/-- An invalid pattern, an operand without a text, and a field that must be there. -/
def brokenPatterns : ConditionSet :=
  ⟨[[⟨"a", "match", .string "("⟩, ⟨"a", "startswith", .array []⟩], [⟨"b", "notnull", .null⟩]]⟩

/-- The one invalid pattern is warned about once for two records, of
which one is kept and one traced. -/
theorem evaluate_brokenPatterns :
    ((Json.object [("x", .object [("b", .bool true)]), ("y", .string "z")]).evaluate
        brokenPatterns).lines =
      ["WARN pattern \"^(?:()$\" never matches", "TRACE rejected \"z\"",
        "DEBUG 1 of 2 records matched \x60a match \"(\" and a startswith [] or b notnull\x60"] := by
  have known : ∀ condition ∈ brokenPatterns.conditions,
      Operator.isAllowed condition.operator = true := by decide
  have invalid : brokenPatterns.conditions.filterMap Condition.invalidPattern? =
      ["^(?:()$".toList] := by decide +kernel
  have present : brokenPatterns.SatisfiedBy (.object [("b", .bool true)]) := by decide +kernel
  have missing : ¬brokenPatterns.SatisfiedBy (.string "z") := by decide +kernel
  -- The general theorem tells the lines, up to what is kept of the two records.
  rw [(evaluate_reports_once brokenPatterns known _).2.2.1, invalid]
  simp only [Json.records, Json.filterRecords, Json.recordCount, Json.isScalar, List.map_cons,
    List.map_nil, List.filter_cons, List.filter_nil, decide_eq_true present, decide_eq_false missing,
    if_true, if_false, Bool.not_true, Bool.not_false, Bool.false_eq_true]
  decide +kernel

end ConditionSet

end RecordFilter
