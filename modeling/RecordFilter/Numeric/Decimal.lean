import RecordFilter.Numeric.Digits
import RecordFilter.Numeric.Double

/-! Decimal numerals with an optional point and exponent, read and rounded correctly. -/

namespace RecordFilter

/-- A decimal numeral: a sign, its digits without the point, and
the power of ten of the last one. -/
structure Decimal where
  /-- Whether a minus sign stands in front. -/
  negative : Bool
  /-- The digits before and after the point, read as one natural number. -/
  coefficient : Nat
  /-- The power of ten that the last digit counts. -/
  exponent : Int
deriving DecidableEq

namespace Decimal

/-- An optional sign in front of a text: whether it is a minus, and the rest. -/
def takeSign : List Char → Bool × List Char
  | '-' :: rest => (true, rest)
  | '+' :: rest => (false, rest)
  | text => (false, text)

/-- The exponent that ends a numeral, zero when nothing is left to read. -/
def readExponent : List Char → Option Int
  | [] => some 0
  | marker :: rest =>
    let (negative, text) := takeSign rest
    if (marker == 'e' || marker == 'E') && !text.isEmpty && text.all Char.isDigit then
      some (if negative then -(ofDigits text : Int) else ofDigits text)
    else none

/-- The digits after a point, and what follows them, where the point itself may be missing. -/
def takeFraction : List Char → List Char × List Char
  | '.' :: rest => spanDigits rest
  | text => ([], text)

/-- Reads a whole text as a numeral: a sign, digits with a point
anywhere among them, an exponent. -/
def read (text : List Char) : Option Decimal :=
  let (negative, unsigned) := takeSign text
  let (whole, afterWhole) := spanDigits unsigned
  let (fraction, afterFraction) := takeFraction afterWhole
  -- The point alone is no number, but a digit on either side of it is enough.
  if whole.isEmpty && fraction.isEmpty then none
  else
    (readExponent afterFraction).map fun exponent =>
      ⟨negative, ofDigits (whole ++ fraction), exponent - fraction.length⟩

/-- The double nearest to a decimal numeral. -/
def toDouble (decimal : Decimal) : Double :=
  let length : Int := (digits decimal.coefficient).length
  -- Powers of ten far outside the range of doubles are settled without computing them.
  if decimal.coefficient == 0 then Double.zero decimal.negative
  else if decimal.exponent + length > 400 then Double.infinity decimal.negative
  else if decimal.exponent + length < -400 then Double.zero decimal.negative
  else
    Double.ofQuotient decimal.negative
      (decimal.coefficient * tenTo decimal.exponent.toNat) (tenTo (-decimal.exponent).toNat)

end Decimal

end RecordFilter
