import RecordFilter.Numeric.Shortest
import RecordFilter.Json.Basic

/-! The compact text of a document: no blanks, members in their order,
doubles in their fewest digits. -/

namespace RecordFilter

/-- Doubles are positional from five places after the point up to sixteen digits before it. -/
def documentLayout : DoubleLayout := ⟨-5, 15, ['.', '0'], ['+']⟩

/-- The text of a number: an integer by its digits, a double with a point or an exponent. -/
def Number.text : Number → List Char
  | integer value _ => integerText value
  | double value _ => documentLayout.write value

namespace Json

/-- A hexadecimal digit in lower case. -/
def hexDigit (value : Nat) : Char :=
  -- The letters follow the digits from ten on.
  if value < 10 then digitChar value else Char.ofNat (87 + value)

/-- A character inside a string literal, escaped where the literal needs it. -/
def escape (character : Char) : List Char :=
  match character with
  | '"' => ['\\', '"']
  | '\\' => ['\\', '\\']
  | '\x08' => ['\\', 'b']
  | '\x0c' => ['\\', 'f']
  | '\n' => ['\\', 'n']
  | '\r' => ['\\', 'r']
  | '\t' => ['\\', 't']
  | other =>
    -- Only the remaining control characters below the space are written by their code.
    if other.toNat < 32 then
      ['\\', 'u', '0', '0', hexDigit (other.toNat / 16), hexDigit (other.toNat % 16)]
    else [other]

/-- A string as a literal between quotation marks. -/
def quote (text : String) : List Char :=
  '"' :: text.toList.flatMap escape ++ ['"']

mutual

/-- The compact text of a document. -/
def write : Json → List Char
  | null => ['n', 'u', 'l', 'l']
  | bool true => ['t', 'r', 'u', 'e']
  | bool false => ['f', 'a', 'l', 's', 'e']
  | number value => value.text
  | string text => quote text
  | array items => '[' :: writeItems items ++ [']']
  | object members => '{' :: writeMembers members ++ ['}']

/-- The items of an array, separated by commas. -/
def writeItems : List Json → List Char
  | [] => []
  -- No comma stands behind the last item.
  | [item] => item.write
  | item :: rest => item.write ++ ',' :: writeItems rest

/-- The members of an object, separated by commas. -/
def writeMembers : List (String × Json) → List Char
  | [] => []
  -- No comma stands behind the last member.
  | [(key, value)] => quote key ++ ':' :: value.write
  | (key, value) :: rest => quote key ++ ':' :: value.write ++ ',' :: writeMembers rest

end

/-- The compact text of a document as a string. -/
def compact (value : Json) : String :=
  String.ofList value.write

end Json

end RecordFilter
