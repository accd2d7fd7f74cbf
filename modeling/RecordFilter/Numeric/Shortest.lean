import RecordFilter.Numeric.Decimal

/-! The fewest decimal digits that still round to a given double,
and the layout they are written in. -/

namespace RecordFilter

namespace Double

/-- The power of ten of the leading digit of a positive number of units. -/
def leadingExponent (units : Nat) : Int :=
  -- Scaling by this power keeps at least the leading digit of the smallest double whole.
  ((digits (units * tenTo 340 / unitsPerOne)).length : Int) - 341

/-- The two numbers of a decimal grid next to a finite double, the nearer one first. -/
def neighbours (value : Double) (exponent : Int) : List Decimal :=
  let dividend := value.units * tenTo (-exponent).toNat
  let divisor := unitsPerOne * tenTo exponent.toNat
  let below := dividend / divisor
  -- Rounding half to even picks the nearer neighbour, and the even one of two equally near.
  let nearest := roundQuotient dividend divisor
  let other := if nearest == below then below + 1 else below
  [⟨value.negative, nearest, exponent⟩, ⟨value.negative, other, exponent⟩]

/-- The decimals of one to seventeen digits next to a finite double that is not zero. -/
def candidates (value : Double) : List Decimal :=
  let leading := leadingExponent value.units
  (List.range 17).flatMap fun (place : Nat) => neighbours value (leading - place)

/-- The shortest decimal that rounds to a finite double, and of several the nearest. -/
def shortest (value : Double) : Decimal :=
  -- Seventeen digits always suffice, so the search falls back to nothing but the zeros.
  (value.candidates.find? (fun decimal => decimal.toDouble == value)).getD ⟨value.negative, 0, 0⟩

end Double

/-- How a finite double is written: which exponents are written positionally,
and how the others are. -/
structure DoubleLayout where
  /-- The least exponent of the leading digit that is written positionally. -/
  leastPositional : Int
  /-- The greatest exponent of the leading digit that is written positionally. -/
  greatestPositional : Int
  /-- What follows a whole number in positional notation. -/
  wholeSuffix : List Char
  /-- The sign before an exponent that is not negative. -/
  exponentSign : List Char

namespace DoubleLayout

/-- Digits with a point after the given number of them, padded with zeros on either side. -/
def positional (layout : DoubleLayout) (text : List Char) (whole : Int) : List Char :=
  let length : Int := text.length
  if whole ≤ 0 then '0' :: '.' :: List.replicate (-whole).toNat '0' ++ text
  else if whole < length then text.take whole.toNat ++ '.' :: text.drop whole.toNat
  else text ++ List.replicate (whole - length).toNat '0' ++ layout.wholeSuffix

/-- The digits of a decimal with a point after the first of them. -/
def mantissa : List Char → List Char
  | first :: second :: more => first :: '.' :: second :: more
  | text => text

/-- Digits with a point after the first of them, and an exponent. -/
def scientific (layout : DoubleLayout) (text : List Char) (exponent : Int) : List Char :=
  let sign := if exponent < 0 then ['-'] else layout.exponentSign
  mantissa text ++ 'e' :: sign ++ digits exponent.natAbs

/-- The text of a finite double. -/
def write (layout : DoubleLayout) (value : Double) : List Char :=
  let sign := if value.negative then ['-'] else []
  if value.isZero then sign ++ '0' :: layout.wholeSuffix
  else
    let decimal := value.shortest
    let text := digits decimal.coefficient
    let leading := decimal.exponent + text.length - 1
    -- A shortest decimal ends in a zero only when it was rounded up to a power of ten.
    let kept := (text.reverse.dropWhile (· == '0')).reverse
    sign ++
      if layout.leastPositional ≤ leading && leading ≤ layout.greatestPositional then
        layout.positional kept (leading + 1)
      else layout.scientific kept leading

end DoubleLayout

end RecordFilter
