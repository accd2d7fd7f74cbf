import RecordFilter.Condition.Basic
import RecordFilter.Json.Printer

/-! The text of conditions as an expression, which reads back as the same conditions. -/

namespace RecordFilter

/-- Whether a character may stand in a key without quotation marks, or would continue a word. -/
def isWordCharacter (character : Char) : Bool :=
  character.isAlphanum || character == '_' || character == '-' || character == '$' || character == '@'

/-- Whether a text is one of the words that join conditions, in letters of either case. -/
def isConnectiveWord (text : List Char) : Bool :=
  let lower := text.map Char.toLower
  -- Readers take connectives in any case, so keys are compared in small letters.
  lower == ['a', 'n', 'd'] || lower == ['o', 'r']

/-- Whether a key must be written between quotation marks. -/
def needsQuotes (key : List Char) : Bool :=
  -- A key is bare only if it reads back as one word that joins nothing.
  key.isEmpty || isConnectiveWord key || !key.all isWordCharacter

namespace Condition

/-- A key as it stands in an expression. -/
def keyText (key : String) : List Char :=
  if needsQuotes key.toList then Json.quote key else key.toList

/-- Whether a condition reads naturally without its operand. -/
def omitsOperand (condition : Condition) : Bool :=
  -- Any other operator keeps its operand, even a null.
  (condition.operator == "null" || condition.operator == "notnull") &&
    match condition.operand with
    | .null => true
    | _ => false

/-- A condition as a clause of an expression. -/
def text (condition : Condition) : List Char :=
  -- One space stands between the parts.
  let subject := keyText condition.key ++ ' ' :: condition.operator.toList
  if condition.omitsOperand then subject else subject ++ ' ' :: condition.operand.write

end Condition

/-- Texts with a separator between neighbours. -/
def joinTexts (separator : List Char) (texts : List (List Char)) : List Char :=
  List.intercalate separator texts

/-- A group as clauses that are joined by a word. -/
def ConditionGroup.text (group : ConditionGroup) : List Char :=
  joinTexts [' ', 'a', 'n', 'd', ' '] (group.map Condition.text)

namespace ConditionSet

/-- A set as an expression, in which empty groups do not show. -/
def text (set : ConditionSet) : List Char :=
  joinTexts [' ', 'o', 'r', ' '] (set.withoutEmpty.groups.map ConditionGroup.text)

/-- A set as an expression. -/
def display (set : ConditionSet) : String :=
  String.ofList set.text

end ConditionSet

end RecordFilter
