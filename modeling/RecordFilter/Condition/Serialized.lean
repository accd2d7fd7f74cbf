import RecordFilter.Condition.Basic
import RecordFilter.Json.Reader

/-! Condition sets as documents: lists of lists of conditions, each an object or a list of three. -/

namespace RecordFilter

namespace Condition

/-- A condition as an object. -/
def toJson (condition : Condition) : Json :=
  .object [("key", .string condition.key), ("operator", .string condition.operator),
    ("value", condition.operand)]

/-- How many containers may lie around each other in an operand, below
a set, a group and a condition. -/
def operandRoom : Nat := Json.nestingLimit - 3

/-- The members of a condition that have been found so far. -/
structure Found where
  /-- The key. -/
  key : Option String
  /-- The operator. -/
  operator : Option String
  /-- The operand. -/
  operand : Option Json

/-- The string that a written document denotes, if it is one. -/
def stringOf? : Written → Option String
  | .string parts => StringPart.text? parts
  | _ => none

/-- Takes in one member: each of the three may come once, and all others are passed over unread. -/
def Found.add (found : Found) (name : String) (written : Written) : Option Found :=
  if name == "key" then
    if found.key.isSome then none
    else (stringOf? written).map fun key => { found with key := some key }
  else if name == "operator" then
    if found.operator.isSome then none
    else (stringOf? written).map fun operator => { found with operator := some operator }
  else if name == "value" then
    if found.operand.isSome then none
    else (written.value? operandRoom).map fun operand => { found with operand := some operand }
  else some found

/-- Takes in the members of an object one after another. -/
def Found.addAll (found : Found) : List (List StringPart × Written) → Option Found
  | [] => some found
  | (parts, written) :: rest =>
    (StringPart.text? parts).bind fun name =>
      (found.add name written).bind fun more => more.addAll rest

/-- The condition with all three members, if none is missing. -/
def Found.complete? (found : Found) : Option Condition :=
  match found with
  | ⟨some key, some operator, some operand⟩ => some ⟨key, operator, operand⟩
  | _ => none

/-- The condition that a written document denotes. -/
def ofWritten? : Written → Option Condition
  | .object members => ((Found.mk none none none).addAll members).bind Found.complete?
  | .array [key, operator, operand] =>
    (stringOf? key).bind fun name =>
      (stringOf? operator).bind fun token =>
        (operand.value? operandRoom).map fun value => ⟨name, token, value⟩
  | _ => none

end Condition

namespace ConditionSet

/-- A set as a document. -/
def toJson (set : ConditionSet) : Json :=
  .array (set.groups.map fun group => .array (group.map Condition.toJson))

/-- The group that a written document denotes. -/
def groupOfWritten? : Written → Option ConditionGroup
  | .array conditions => conditions.mapM Condition.ofWritten?
  | _ => none

/-- The set that a written document denotes. -/
def ofWritten? : Written → Option ConditionSet
  | .array groups => (groups.mapM groupOfWritten?).map ConditionSet.mk
  | _ => none

/-- Reads a set from the text of a document. -/
def deserialize (text : List Char) : Option ConditionSet :=
  (Written.read text).bind ofWritten?

end ConditionSet

end RecordFilter
