import RecordFilter.Numeric.Power

/-! Double-precision numbers as exact data: their order, rounding, and
arithmetic without machine floats. -/

namespace RecordFilter

/-- The bits of positive infinity, which lie just above those of the largest finite double. -/
def infinityBits : Nat := 2047 * twoTo 52

/-- A double-precision number other than a NaN: its sign, and its remaining bits as a magnitude. -/
structure Double where
  /-- Whether the sign bit is set, which also tells the two zeros apart. -/
  negative : Bool
  /-- The exponent and fraction bits, which grow with the absolute value. -/
  magnitude : Nat
  /-- No magnitude lies above infinity. -/
  bounded : magnitude ≤ infinityBits
deriving DecidableEq

namespace Double

/-- How many times a magnitude holds the smallest positive double. -/
def unitsOf (magnitude : Nat) : Nat :=
  -- Below the first power of two the fraction stands alone, and above it a leading bit is implied.
  if magnitude < twoTo 52 then magnitude
  else (twoTo 52 + magnitude % twoTo 52) * twoTo (magnitude / twoTo 52 - 1)

/-- The absolute value of a double, counted in the smallest positive double. -/
def units (value : Double) : Nat :=
  unitsOf value.magnitude

/-- How many smallest positive doubles make one. -/
def unitsPerOne : Nat := twoTo 1074

/-- A number that stands for a double in the order, the same for both zeros. -/
def key (value : Double) : Int :=
  if value.negative then -(value.magnitude : Int) else value.magnitude

/-- Numerical equality, under which the two zeros are equal. -/
def sameValue (left right : Double) : Bool :=
  left.key == right.key

/-- Numerical order, which is total because no double here is a NaN. -/
def order (left right : Double) : Ordering :=
  compare left.key right.key

/-- Whether a double is below infinity in absolute value. -/
def IsFinite (value : Double) : Prop :=
  value.magnitude < infinityBits

instance (value : Double) : Decidable value.IsFinite :=
  inferInstanceAs (Decidable (value.magnitude < infinityBits))

/-- Whether a double is one of the two zeros. -/
def isZero (value : Double) : Bool :=
  value.magnitude == 0

/-- The quotient of two naturals, rounded to the nearest natural, and to the even one of two. -/
def roundQuotient (dividend divisor : Nat) : Nat :=
  let quotient := dividend / divisor
  let twice := 2 * (dividend % divisor)
  if twice > divisor || (twice == divisor && quotient % 2 == 1) then quotient + 1 else quotient

/-- The magnitude of the double nearest to a quotient of naturals, not yet cut at infinity. -/
def nearestMagnitude (dividend divisor : Nat) : Nat :=
  -- The spacing doubles with every binary place beyond the fifty-third.
  let scaled := dividend * unitsPerOne
  let shift := (scaled / divisor).log2 - 52
  -- A fraction that rounds up past its last bit carries into the
  -- exponent, which is the next magnitude.
  shift * twoTo 52 + roundQuotient scaled (divisor * twoTo shift)

/-- The double nearest to a quotient of naturals, ties going to the
even one, infinity when too large. -/
def ofQuotient (negative : Bool) (dividend divisor : Nat) : Double :=
  ⟨negative, min (nearestMagnitude dividend divisor) infinityBits, Nat.min_le_right _ _⟩

/-- The double nearest to a natural number. -/
def ofNat (value : Nat) : Double :=
  ofQuotient false value 1

/-- The double nearest to an integer. -/
def ofInt (value : Int) : Double :=
  ofQuotient (value < 0) value.natAbs 1

/-- A zero with the given sign. -/
def zero (negative : Bool) : Double :=
  ⟨negative, 0, Nat.zero_le _⟩

/-- The infinity with the given sign. -/
def infinity (negative : Bool) : Double :=
  ⟨negative, infinityBits, Nat.le_refl _⟩

/-- The same absolute value with the given sign. -/
def withSign (value : Double) (negative : Bool) : Double :=
  { value with negative }

/-- The product of two finite doubles, rounded once. -/
def mul (left right : Double) : Double :=
  ofQuotient (left.negative != right.negative) (left.units * right.units) (unitsPerOne * unitsPerOne)

/-- The quotient of two finite doubles, the second not zero, rounded once. -/
def div (left right : Double) : Double :=
  ofQuotient (left.negative != right.negative) left.units right.units

/-- Whether a finite double has no fractional part. -/
def isIntegral (value : Double) : Bool :=
  value.units % unitsPerOne == 0

/-- The whole part of the absolute value of a finite double. -/
def wholePart (value : Double) : Nat :=
  value.units / unitsPerOne

/-- The number behind the bits of a binary interchange format, nothing for a NaN. -/
def ofInterchange (exponentBits fractionBits bits : Nat) : Option Double :=
  let fraction := bits % twoTo fractionBits
  let exponent := bits / twoTo fractionBits % twoTo exponentBits
  let negative := bits / twoTo (fractionBits + exponentBits) % 2 == 1
  -- The weight of the last fraction bit at exponent one is two to the minus this.
  let depth := twoTo (exponentBits - 1) + fractionBits - 2
  if exponent == twoTo exponentBits - 1 then
    if fraction == 0 then some (infinity negative) else none
  else if exponent == 0 then some (ofQuotient negative fraction (twoTo depth))
  else some (ofQuotient negative ((twoTo fractionBits + fraction) * twoTo (exponent - 1)) (twoTo depth))

end Double

end RecordFilter
