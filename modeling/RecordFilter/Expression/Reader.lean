import RecordFilter.Expression.Clause
import RecordFilter.Json.Reader

/-! The meaning of expressions: quoted keys and operands are documents,
and a missing operand is null. -/

namespace RecordFilter

/-- Why a text is no expression. -/
inductive ExpressionError
  /-- The text does not follow the grammar. -/
  | unexpectedToken
  /-- A quoted key or an operand is no document. -/
  | invalidLiteral (text : String)
deriving DecidableEq

/-- The message of an error, up to what a diagnosis may have to add. -/
def ExpressionError.message : ExpressionError → String
  | unexpectedToken => "Unexpected token: "
  | invalidLiteral text => "Invalid literal: " ++ text

namespace WrittenKey

/-- The key that a written one denotes. -/
def decode : WrittenKey → Except ExpressionError String
  | bare name => .ok (String.ofList name)
  | quoted text =>
    match Json.read text with
    -- The grammar of quoted keys is wider than that of strings, so decoding may fail.
    | some (.string name) => .ok name
    | _ => .error (.invalidLiteral (String.ofList text))

end WrittenKey

namespace WrittenClause

/-- The operand that a clause denotes. -/
def decodeOperand : Option (List Char) → Except ExpressionError Json
  -- A missing operand counts as null.
  | none => .ok .null
  | some text =>
    match Json.read text with
    | some operand => .ok operand
    | none => .error (.invalidLiteral (String.ofList text))

/-- The condition that a clause denotes; its key is decoded before its operand. -/
def decode (clause : WrittenClause) : Except ExpressionError Condition := do
  -- The first part that fails is the one that is reported.
  let key ← clause.key.decode
  let operand ← decodeOperand clause.operand
  return ⟨key, String.ofList clause.operator, operand⟩

/-- The conditions that the clauses of a group denote, in their order. -/
def decodeGroup : List WrittenClause → Except ExpressionError ConditionGroup
  | [] => .ok []
  | clause :: rest => do
    let condition ← clause.decode
    let others ← decodeGroup rest
    return condition :: others

/-- The groups of conditions that groups of clauses denote, in their order. -/
def decodeGroups : List (List WrittenClause) → Except ExpressionError (List ConditionGroup)
  | [] => .ok []
  | group :: rest => do
    let conditions ← decodeGroup group
    let others ← decodeGroups rest
    return conditions :: others

end WrittenClause

namespace ConditionSet

/-- Reads an expression: its grammar is checked as a whole before any literal is decoded. -/
def parse (text : List Char) : Except ExpressionError ConditionSet :=
  match Expression.readGroups text with
  -- No literal is decoded unless the whole text follows the grammar.
  | none => .error .unexpectedToken
  | some groups => (WrittenClause.decodeGroups groups).map fun decoded => ⟨decoded⟩

end ConditionSet

end RecordFilter
