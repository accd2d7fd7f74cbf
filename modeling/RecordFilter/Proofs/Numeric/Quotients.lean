import RecordFilter.Proofs.Numeric.Rounding

/-! Doubles that are whole numbers without rounding: their products
and quotients are rounded only once. -/

namespace RecordFilter

/-- The powers of ten are those of the library. -/
theorem tenTo_eq (exponent : Nat) : tenTo exponent = 10 ^ exponent := rfl

/-- A power of ten is positive. -/
theorem tenTo_pos (exponent : Nat) : 0 < tenTo exponent := Nat.pow_pos (by decide)

/-- The power of no tens is one. -/
theorem tenTo_zero : tenTo 0 = 1 := rfl

/-- Powers of ten are in the order of their exponents. -/
theorem tenTo_mono {low high : Nat} (le : low ≤ high) : tenTo low ≤ tenTo high :=
  Nat.pow_le_pow_right (by decide) le

/-- Powers of ten are multiplied by adding their exponents. -/
theorem tenTo_add (first second : Nat) : tenTo (first + second) = tenTo first * tenTo second :=
  Nat.pow_add ..

/-- The next power is ten times as large. -/
theorem tenTo_succ (exponent : Nat) : tenTo (exponent + 1) = tenTo exponent * 10 :=
  Nat.pow_succ ..

namespace Double

/-- The smallest double is held at least once by one. -/
theorem unitsPerOne_pos : 0 < unitsPerOne := twoTo_pos 1074

/-- The sign has no part in the absolute value. -/
theorem magnitude_ofQuotient (negative : Bool) (dividend divisor : Nat) :
    (ofQuotient negative dividend divisor).magnitude =
      min (nearestMagnitude dividend divisor) infinityBits := rfl

section Scaling

variable {dividend divisor other otherDivisor factor : Nat}

/-- The nearest double depends on the value of a quotient, whatever
factor both sides have in common. -/
theorem nearestMagnitude_scale (positive : 0 < factor) :
    nearestMagnitude (dividend * factor) (divisor * factor) = nearestMagnitude dividend divisor := by
  have moved : dividend * factor * unitsPerOne = dividend * unitsPerOne * factor :=
    Nat.mul_right_comm ..
  have place : ∀ shift, divisor * factor * twoTo shift = divisor * twoTo shift * factor :=
    fun shift => Nat.mul_right_comm ..
  -- The factor leaves the whole part alone, and with it the place that is rounded to.
  simp only [nearestMagnitude, moved, place, Nat.mul_div_mul_right _ _ positive,
    roundQuotient_scale positive]

/-- A common factor of both sides can be left out. -/
theorem ofQuotient_scale (negative : Bool) (positive : 0 < factor) :
    ofQuotient negative (dividend * factor) (divisor * factor) =
      ofQuotient negative dividend divisor := by
  simp only [ofQuotient, nearestMagnitude_scale positive]

/-- Equal quotients have the same nearest double. -/
theorem ofQuotient_congr (negative : Bool) (positive : 0 < divisor) (otherPositive : 0 < otherDivisor)
    (cross : dividend * otherDivisor = other * divisor) :
    ofQuotient negative dividend divisor = ofQuotient negative other otherDivisor := by
  -- Both quotients are brought to the product of the two divisors.
  calc ofQuotient negative dividend divisor
    _ = ofQuotient negative (dividend * otherDivisor) (divisor * otherDivisor) :=
      (ofQuotient_scale negative otherPositive).symm
    _ = ofQuotient negative (other * divisor) (otherDivisor * divisor) := by
      rw [cross, Nat.mul_comm divisor]
    _ = ofQuotient negative other otherDivisor := ofQuotient_scale negative positive

/-- Zeros at the end of a coefficient may as well be counted by the power of ten. -/
theorem ofQuotient_moved (negative : Bool) (coefficient count : Nat) (exponent : Int) :
    ofQuotient negative (coefficient * tenTo count * tenTo exponent.toNat)
        (tenTo (-exponent).toNat) =
      ofQuotient negative (coefficient * tenTo (exponent + count).toNat)
        (tenTo (-(exponent + count)).toNat) := by
  apply ofQuotient_congr negative (tenTo_pos _) (tenTo_pos _)
  -- Only one side of a quotient has a power of ten, and which one the exponent decides.
  have powers : tenTo count * tenTo exponent.toNat * tenTo (-(exponent + count)).toNat =
      tenTo (exponent + count).toNat * tenTo (-exponent).toNat := by
    rw [← tenTo_add, ← tenTo_add, ← tenTo_add]
    exact congrArg tenTo (by omega)
  calc coefficient * tenTo count * tenTo exponent.toNat * tenTo (-(exponent + count)).toNat
    _ = coefficient *
        (tenTo count * tenTo exponent.toNat * tenTo (-(exponent + count)).toNat) := by ring
    _ = coefficient * tenTo (exponent + count).toNat * tenTo (-exponent).toNat := by
      rw [powers]
      ring

end Scaling

section Exact

variable {value other : Nat}

/-- Doubling a number doubles what it is rounded to. -/
theorem significant_two_mul (value : Nat) : significant (value * 2) = significant value * 2 := by
  by_cases long : 2 ^ 52 ≤ value
  · -- The place that is rounded to is doubled with the number.
    have nonzero : value ≠ 0 := by omega
    have log : 52 ≤ value.log2 := (Nat.le_log2 nonzero).mpr long
    have next : (value * 2).log2 - 52 = value.log2 - 52 + 1 := by
      have := log2_mul_pow nonzero 1
      rw [Nat.pow_one] at this
      omega
    unfold significant
    simp only [next, Nat.pow_succ, roundQuotient_scale Nat.two_pos, ← Nat.mul_assoc]
  · -- Neither the number nor its double is rounded.
    rw [significant_of_le (show value ≤ 2 ^ 53 by omega),
      significant_of_le (show value * 2 ≤ 2 ^ 53 by omega)]

/-- A power of two moves the digits of a number, and which of them are kept stays the same. -/
theorem significant_mul_pow (value places : Nat) :
    significant (value * 2 ^ places) = significant value * 2 ^ places := by
  induction places with
  | zero => simp
  | succ places ih => rw [Nat.pow_succ, ← Nat.mul_assoc, significant_two_mul, ih, Nat.mul_assoc]

/-- The powers of ten up to the twenty-second are kept as they are. -/
theorem significant_tenTo {exponent : Nat} (small : exponent ≤ 22) :
    significant (tenTo exponent) = tenTo exponent := by
  -- Of a power of ten only the power of five counts, and that is a small number.
  have fives : 5 ^ exponent ≤ 2 ^ 53 :=
    Nat.le_trans (Nat.pow_le_pow_right (by decide) small) (by decide)
  have parts : tenTo exponent = 5 ^ exponent * 2 ^ exponent := by
    rw [tenTo_eq, ← Nat.mul_pow]
  rw [parts, significant_mul_pow, significant_of_le fives]

/-- A number in range has a finite double. -/
theorem isFinite_ofQuotient_one (negative : Bool) (inRange : value < 2 ^ 256) :
    (ofQuotient negative value 1).IsFinite :=
  Nat.lt_of_le_of_lt (Nat.min_le_left _ _) (nearestMagnitude_lt inRange)

/-- The double of a number in range holds the number as it was rounded. -/
theorem units_ofNat (inRange : value < 2 ^ 256) :
    (ofNat value).units = significant value * unitsPerOne := by
  have magnitude : (ofNat value).magnitude = nearestMagnitude value 1 :=
    Nat.min_eq_left (Nat.le_of_lt (nearestMagnitude_lt inRange))
  rw [units, magnitude, unitsOf_nearestMagnitude]

/-- A whole number that is a double of its own, far below infinity. -/
structure Exact (value : Nat) : Prop where
  /-- No digit is lost. -/
  kept : significant value = value
  /-- There is room above for the product with another such number. -/
  inRange : value < 2 ^ 128

/-- An exact number counts as often as it says. -/
theorem Exact.units_eq (exact : Exact value) : (ofNat value).units = value * unitsPerOne := by
  have inRange : value < 2 ^ 256 :=
    Nat.lt_trans exact.inRange (Nat.pow_lt_pow_right (by decide) (by decide))
  rw [units_ofNat inRange, exact.kept]

/-- Numbers of up to fifty-three binary digits are exact. -/
theorem exact_of_le (small : value ≤ 2 ^ 53) : Exact value := by
  have room : 2 ^ 53 < 2 ^ 128 := Nat.pow_lt_pow_right (by decide) (by decide)
  exact ⟨significant_of_le small, Nat.lt_of_le_of_lt small room⟩

/-- Twice a number of up to fifty-three binary digits is exact. -/
theorem exact_two_mul (small : value ≤ 2 ^ 53) : Exact (value * 2) := by
  -- Doubling moves the digits by one place and changes none.
  have room : 2 ^ 54 < 2 ^ 128 := Nat.pow_lt_pow_right (by decide) (by decide)
  refine ⟨by rw [significant_two_mul, significant_of_le small], ?_⟩
  omega

/-- The powers of ten up to the twenty-second are exact. -/
theorem exact_tenTo {exponent : Nat} (small : exponent ≤ 22) : Exact (tenTo exponent) := by
  -- Nothing is lost of such a power, and it is small enough for products.
  have power : tenTo exponent ≤ 10 ^ 22 := Nat.pow_le_pow_right (by decide) small
  have room : 10 ^ 22 < 2 ^ 128 :=
    Nat.lt_trans (show 10 ^ 22 < 2 ^ 74 by decide) (Nat.pow_lt_pow_right (by decide) (by decide))
  exact ⟨significant_tenTo small, Nat.lt_of_le_of_lt power room⟩

/-- The product of two exact numbers is rounded once. -/
theorem Exact.mul_eq (exact : Exact value) (exactToo : Exact other) :
    (ofNat value).mul (ofNat other) = ofQuotient false (value * other) 1 := by
  have parts : value * unitsPerOne * (other * unitsPerOne) =
      value * other * (unitsPerOne * unitsPerOne) := by ring
  -- What both numbers are counted in is a common factor.
  have scaled : ofQuotient false (value * other * (unitsPerOne * unitsPerOne))
      (1 * (unitsPerOne * unitsPerOne)) = ofQuotient false (value * other) 1 :=
    ofQuotient_scale false (Nat.mul_pos unitsPerOne_pos unitsPerOne_pos)
  rw [Nat.one_mul, ← parts] at scaled
  rw [mul, exact.units_eq, exactToo.units_eq, ← scaled]
  rfl

/-- The product of two exact numbers is finite. -/
theorem Exact.isFinite_mul (exact : Exact value) (exactToo : Exact other) :
    ((ofNat value).mul (ofNat other)).IsFinite := by
  rw [exact.mul_eq exactToo]
  refine isFinite_ofQuotient_one false ?_
  calc value * other
    _ < 2 ^ 128 * 2 ^ 128 := Nat.mul_lt_mul'' exact.inRange exactToo.inRange
    _ = 2 ^ 256 := by rw [← Nat.pow_add]

/-- The quotient of two exact numbers is rounded once. -/
theorem Exact.div_eq (exact : Exact value) (exactToo : Exact other) :
    (ofNat value).div (ofNat other) = ofQuotient false value other := by
  rw [div, exact.units_eq, exactToo.units_eq]
  -- A quotient does not depend on what both sides are counted in.
  exact ofQuotient_scale false unitsPerOne_pos

end Exact

end Double

end RecordFilter
