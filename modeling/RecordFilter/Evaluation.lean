import RecordFilter.Event
import RecordFilter.Operator

/-! Filtering a collection: operators are resolved and patterns compiled
once, before any record is visited. -/

namespace RecordFilter

/-- The test of a condition whose operator has been resolved. -/
inductive CompiledTest
  /-- An operator that is applied to every field anew. -/
  | predicate (operator : Operator) (operand : Json)
  /-- A pattern that has been compiled, nothing if it does not compile. -/
  | pattern (regex : Option Regex)

/-- A condition whose operator has been resolved. -/
structure CompiledCondition where
  /-- The step to the field. -/
  key : Segment
  /-- The test of the field. -/
  test : CompiledTest

/-- Groups of resolved conditions, of which none is empty. -/
abbrev CompiledSet := List (List CompiledCondition)

/-- The operator that a token names, or the failure that it names none. -/
def Operator.ofToken (token : String) : Except Failure Operator :=
  match Operator.ofToken? token with
  | some operator => .ok operator
  | none => .error (.conditionNotAllowed token)

variable [Pattern.Engine]

namespace CompiledTest

/-- Whether a test holds of a field, which may be absent. -/
def holds (field : Option Json) : CompiledTest → Bool
  | predicate operator operand => operator.test field operand
  -- A pattern that does not compile matches nothing.
  | pattern regex => regex.any fun found => Operator.matchesField found field

end CompiledTest

namespace CompiledCondition

/-- Whether a condition holds of a record. -/
def holds (condition : CompiledCondition) (record : Json) : Bool :=
  condition.test.holds (record.child condition.key)

end CompiledCondition

namespace CompiledSet

/-- Whether all conditions of some group hold of a record. -/
def accepts (set : CompiledSet) (record : Json) : Bool :=
  -- The empty set has no group and so accepts no record.
  set.any fun group => group.all (·.holds record)

end CompiledSet

namespace Condition

/-- Compiles the pattern of a condition, with a warning if there is one that does not compile. -/
def compilePattern (operator : Operator) (operand : Json) : Logged (Option Regex) :=
  match operator.pattern? operand with
  -- Without a text form of the operand there is no pattern, and no warning.
  | none => .ok none
  | some source =>
    match Pattern.compile? source with
    | some regex => .ok (some regex)
    | none => ⟨[.patternNeverMatches source (Pattern.Engine.complaint? source)], .ok none⟩

/-- Resolves the operator of a condition. -/
def resolveOperator (condition : Condition) : Except Failure Operator :=
  Operator.ofToken condition.operator

/-- Resolves a condition. -/
def compile (condition : Condition) : Logged CompiledCondition :=
  match condition.resolveOperator with
  | .error failure => .fail failure
  | .ok operator =>
    -- Patterns are compiled here, once, and not anew for every record.
    if operator.isPattern then do
      let regex ← compilePattern operator condition.operand
      return ⟨.field condition.key, .pattern regex⟩
    else .ok ⟨.field condition.key, .predicate operator condition.operand⟩

/-- Resolves the conditions of a group, up to the first that fails. -/
def compileGroup : ConditionGroup → Logged (List CompiledCondition)
  | [] => .ok []
  | condition :: rest => do
    -- A condition that fails leaves those behind it unresolved.
    let first ← condition.compile
    let others ← compileGroup rest
    return first :: others

end Condition

namespace ConditionSet

/-- Resolves groups, up to the first condition that fails. -/
def compileGroups : List ConditionGroup → Logged CompiledSet
  | [] => .ok []
  | group :: rest => do
    let first ← Condition.compileGroup group
    let others ← compileGroups rest
    return first :: others

/-- Resolves a set, of which empty groups are left out. -/
def compile (set : ConditionSet) : Logged CompiledSet :=
  -- An empty group would hold of every record.
  compileGroups set.withoutEmpty.groups

/-- Whether a record satisfies a set. -/
def accepts (set : ConditionSet) (record : Json) : Logged Bool := do
  let compiled ← set.compile
  return compiled.accepts record

end ConditionSet

namespace Json

/-- The number of records in a collection. -/
def recordCount : Json → Nat
  | array items => items.length
  | object members => members.length
  | _ => 0

/-- The records of a collection, in their order. -/
def records : Json → List Json
  | array items => items
  | object members => members.map Prod.snd
  | _ => []

/-- Whether a value is neither an array nor an object. -/
def isScalar : Json → Bool
  | array _ => false
  | object _ => false
  | _ => true

/-- The records of a collection that satisfy a condition; a scalar leaves an empty array. -/
def filterRecords (keep : Json → Bool) : Json → Json
  | array items => array (items.filter keep)
  -- The keys stay with the values that are kept.
  | object members => object (members.filter fun (_, value) => keep value)
  | _ => array []

/-- Filters a collection by a set of conditions, and reports what
was rejected and how much was kept. -/
def evaluate (collection : Json) (set : ConditionSet) : Logged Json := do
  let compiled ← set.compile
  -- Nothing can fail any more once the set is resolved.
  let kept := collection.filterRecords compiled.accepts
  .emit ((collection.records.filter fun record => !compiled.accepts record).map Event.rejected)
  .emit (if collection.isScalar then [.scalarCollection] else [])
  .emit [.matched kept.recordCount collection.recordCount set]
  return kept

end Json

end RecordFilter
