import RecordFilter.Comparison
import RecordFilter.Pattern.Reader

/-! The operators of conditions: their tokens, and what each says about a field and an operand. -/

namespace RecordFilter

/-- An operator between a field and an operand. -/
inductive Operator
  /-- Loosely equal. -/
  | equal
  /-- Strictly equal. -/
  | exactEqual
  /-- Not loosely equal. -/
  | notEqual
  /-- Not strictly equal. -/
  | notExactEqual
  /-- Greater. -/
  | greater
  /-- Less. -/
  | less
  /-- Greater or equal in order. -/
  | greaterEqual
  /-- Less or equal in order. -/
  | lessEqual
  /-- Loosely equal to an item of the operand. -/
  | isIn
  /-- Loosely equal to no item of the operand. -/
  | notIn
  /-- Absent, null, or loosely equal to the operand. -/
  | null
  /-- Present, not null, and not strictly equal to the operand. -/
  | notNull
  /-- Matched by a pattern from the start. -/
  | startsWith
  /-- Ending in the operand. -/
  | endsWith
  /-- Matched by a pattern as a whole. -/
  | fullMatch
  /-- Containing the operand. -/
  | contains
deriving DecidableEq

namespace Operator

/-- All operators, in the order of the registry. -/
def all : List Operator :=
  [equal, exactEqual, notEqual, notExactEqual, greater, less, greaterEqual, lessEqual, isIn, notIn,
    null, notNull, startsWith, endsWith, fullMatch, contains]

/-- The token that an operator is written as. -/
def token : Operator → String
  | equal => "="
  | exactEqual => "=="
  | notEqual => "!="
  | notExactEqual => "!=="
  | greater => ">"
  | less => "<"
  | greaterEqual => ">="
  | lessEqual => "<="
  | isIn => "in"
  | notIn => "notin"
  | null => "null"
  | notNull => "notnull"
  | startsWith => "startswith"
  | endsWith => "endswith"
  | fullMatch => "match"
  | contains => "contains"

/-- The operator that a token names, if there is one. -/
def ofToken? (token : String) : Option Operator :=
  -- Tokens differ from each other, so the order of the registry does not matter.
  all.find? (·.token == token)

/-- Whether a token names an operator. -/
def isAllowed (token : String) : Bool :=
  (ofToken? token).isSome

/-- The place of an operator in the registry. -/
def row (operator : Operator) : Nat :=
  all.findIdx (· == operator)

/-- Whether an operator reads its operand as a pattern. -/
def isPattern : Operator → Bool
  | startsWith => true
  | fullMatch => true
  | _ => false

/-- A text without the slashes and carets at its start, and the dollar
signs and slashes at its end. -/
def withoutDelimiters (text : List Char) : List Char :=
  Text.trimEnd (fun character => character == '$' || character == '/')
    (Text.trimStart (fun character => character == '/' || character == '^') text)

/-- A pattern as a group that must match from the start of the text. -/
def anchored (text : List Char) : List Char :=
  ['^', '(', '?', ':'] ++ text ++ [')']

/-- The source of the pattern that an operator makes of its operand, if both are of that kind. -/
def pattern? (operator : Operator) (operand : Json) : Option (List Char) :=
  -- An operand without a text form makes no pattern.
  operand.fieldText?.bind fun text =>
    match operator with
    | startsWith => some (anchored text)
    | fullMatch => some (anchored (withoutDelimiters text) ++ ['$'])
    | _ => none

/-- The pattern that an operator makes of its operand, if it compiles. -/
def regex? [Pattern.Engine] (operator : Operator) (operand : Json) : Option Regex :=
  -- A pattern that does not compile is none.
  (operator.pattern? operand).bind Pattern.compile?

/-- Whether a pattern matches somewhere in the text form of a field. -/
def matchesField (regex : Regex) (field : Option Json) : Bool :=
  -- A field without a text form is matched by nothing.
  ((field.getD .null).fieldText?).any regex.matchesIn

/-- Whether two fields have text forms that stand in a relation. -/
def relatesTexts (relation : List Char → List Char → Bool) (field : Option Json) (operand : Json) :
    Bool :=
  match (field.getD .null).fieldText?, operand.fieldText? with
  | some text, some part => relation text part
  | _, _ => false

/-- Whether a text occurs in another. -/
def occursIn (part : List Char) : List Char → Bool
  | [] => part.isEmpty
  -- A part occurs here, or further back.
  | character :: rest => part.isPrefixOf (character :: rest) || occursIn part rest

/-- Whether a field stands in an order to an operand that some condition accepts. -/
def ordered (accepts : Ordering → Bool) (field : Option Json) (operand : Json) : Bool :=
  ((field.getD .null).looseCompare operand).any accepts

/-- Whether the operand is an array and its items satisfy a condition. -/
def ofItems (condition : List Json → Bool) : Json → Bool
  | .array items => condition items
  | _ => false

/-- Whether an operator holds between a field, which may be absent, and an operand. -/
def test [Pattern.Engine] (operator : Operator) (field : Option Json) (operand : Json) : Bool :=
  -- An absent field counts as null, except that it is never equal to the operand of a null test.
  let value := field.getD .null
  match operator with
  | equal => value.looseEq operand
  | exactEqual => value.strictEq operand
  | notEqual => !value.looseEq operand
  | notExactEqual => !value.strictEq operand
  | greater => ordered (· == .gt) field operand
  | less => ordered (· == .lt) field operand
  | greaterEqual => ordered (· != .lt) field operand
  | lessEqual => ordered (· != .gt) field operand
  | isIn => ofItems (fun items => items.any value.looseEq) operand
  | notIn => ofItems (fun items => !items.any value.looseEq) operand
  | null =>
    match field with
    | none => true
    | some .null => true
    | some present => present.looseEq operand
  | notNull =>
    match field with
    | none => false
    | some .null => false
    | some present => !present.strictEq operand
  | startsWith => ((startsWith.regex? operand).any fun regex => matchesField regex field)
  | fullMatch => ((fullMatch.regex? operand).any fun regex => matchesField regex field)
  | endsWith => relatesTexts (fun text suffix => suffix.isSuffixOf text) field operand
  | contains => relatesTexts (fun text part => occursIn part text) field operand

end Operator

end RecordFilter
