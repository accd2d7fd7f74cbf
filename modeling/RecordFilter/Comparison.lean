import RecordFilter.Numeric.Floating
import RecordFilter.Json.Printer
import RecordFilter.Text.Blank

/-! Loose equality and order: values of different kinds are compared
by number, text, truth or emptiness. -/

namespace RecordFilter

/-- Whether a character may stand in a decimal numeral. -/
def isNumeralCharacter (character : Char) : Bool :=
  character.isDigit || ['+', '-', '.', 'e', 'E'].contains character

/-- The floating-point number that a text stands for, with blanks around
it ignored and words refused. -/
def floatingText? (text : String) : Option Floating :=
  let trimmed := Text.trim Text.isBlank text.toList
  -- A word would be read as well, but each has letters that no numeral has.
  if trimmed.isEmpty || !trimmed.all isNumeralCharacter then none else Floating.read trimmed

/-- The number that a text denotes as a decimal numeral, with blanks around it ignored. -/
def numericText? (text : String) : Option Double :=
  (floatingText? text).bind Floating.double?

namespace Number

/-- Numerical equality: exact among signed and among unsigned integers, and as doubles otherwise. -/
def looseEq (left right : Number) : Bool :=
  match left.asSigned?, right.asSigned? with
  | some first, some second => first == second
  | _, _ =>
    match left.asUnsigned?, right.asUnsigned? with
    | some first, some second => first == second
    | _, _ => left.toDouble.sameValue right.toDouble

/-- Numerical order: exact among signed and among unsigned integers, and as doubles otherwise. -/
def looseCompare (left right : Number) : Ordering :=
  match left.asSigned?, right.asSigned? with
  | some first, some second => compare first second
  | _, _ =>
    match left.asUnsigned?, right.asUnsigned? with
    | some first, some second => compare first second
    | _, _ => left.toDouble.order right.toDouble

/-- The text of a number as a field: a whole double of fewer than
sixteen digits loses its fraction. -/
def fieldText : Number → List Char
  | integer value inRange => (integer value inRange).text
  | double value finite =>
    if value.isIntegral && value.wholePart < tenTo 15 then
      -- The sign stays even in front of zero.
      if value.negative then '-' :: digits value.wholePart else digits value.wholePart
    else (double value finite).text

end Number

namespace Json

/-- Whether a value counts as true: all but null, false, zero, the empty and the zero string, and
empty containers. -/
def truthy : Json → Bool
  | null => false
  | bool value => value
  | number value => !value.toDouble.isZero
  | string text => text != "" && text != "0"
  | array items => !items.isEmpty
  | object members => !members.isEmpty

/-- Whether a value other than a truth value equals null loosely: null, zero, and what is empty. -/
def isVoid : Json → Bool
  | null => true
  | bool _ => false
  | number value => value.toDouble.isZero
  | string text => text == ""
  | array items => items.isEmpty
  | object members => members.isEmpty

/-- Whether a number equals a text: numerically if the text is a numeral, and as texts otherwise. -/
def numberEqText (value : Number) (text : String) : Bool :=
  match numericText? text with
  | some double => value.toDouble.sameValue double
  | none => value.fieldText == text.toList

/-- Whether two texts are equal: numerically if both are numerals, and
character by character otherwise. -/
def textEqText (left right : String) : Bool :=
  match numericText? left, numericText? right with
  | some first, some second => first.sameValue second
  | _, _ => left == right

/-- Loose equality of two values that are not two arrays or two objects. -/
def looseScalar : Json → Json → Bool
  | bool value, other => value == other.truthy
  | other, bool value => value == other.truthy
  | null, other => other.isVoid
  | other, null => other.isVoid
  | number left, number right => left.looseEq right
  | number value, string text => numberEqText value text
  | string text, number value => numberEqText value text
  | string left, string right => textEqText left right
  | _, _ => false

/-- Loose equality. -/
def looseEq : Json → Json → Bool :=
  agree looseScalar

/-- Loose order, between two nulls, two truth values, or numbers and texts, and nowhere else. -/
def looseCompare : Json → Json → Option Ordering
  | null, null => some .eq
  | bool left, bool right => some (compare left right)
  | number left, number right => some (left.looseCompare right)
  | number value, string text => (numericText? text).map fun double => value.toDouble.order double
  | string text, number value => (numericText? text).map fun double => double.order value.toDouble
  | string left, string right =>
    match numericText? left, numericText? right with
    | some first, some second => some (first.order second)
    | _, _ => some (compare left right)
  | _, _ => none

/-- The text form that the pattern operators work on, which arrays and objects lack. -/
def fieldText? : Json → Option (List Char)
  | null => some []
  | bool true => some ['1']
  | bool false => some []
  | number value => some value.fieldText
  | string text => some text.toList
  | array _ => none
  | object _ => none

end Json

end RecordFilter
