import RecordFilter.Numeric.Decimal

/-! Texts of floating-point numbers: decimal numerals, and the words for
infinity and for what is no number. -/

namespace RecordFilter

/-- What the text of a floating-point number stands for. -/
inductive Floating
  /-- A double, which may be an infinity. -/
  | number (value : Double)
  /-- What is no number at all. -/
  | notNumber
deriving DecidableEq

namespace Floating

/-- The double, unless it is no number. -/
def double? : Floating → Option Double
  | number value => some value
  | notNumber => none

/-- What a word behind a sign names, in letters of either case. -/
def word? (negative : Bool) (text : List Char) : Option Floating :=
  let lower := text.map Char.toLower
  if lower == ['i', 'n', 'f'] || lower == ['i', 'n', 'f', 'i', 'n', 'i', 't', 'y'] then
    some (number (Double.infinity negative))
  -- What is no number has no sign, but one may be written.
  else if lower == ['n', 'a', 'n'] then some notNumber
  else none

/-- Reads a whole text: a decimal numeral, or a word behind an optional sign. -/
def read (text : List Char) : Option Floating :=
  match Decimal.read text with
  | some decimal => some (number decimal.toDouble)
  | none =>
    -- The words know the same signs as the numerals.
    let (negative, unsigned) := Decimal.takeSign text
    word? negative unsigned

end Floating

end RecordFilter
