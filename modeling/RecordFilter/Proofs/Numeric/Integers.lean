import RecordFilter.Proofs.Numeric.Quotients

/-! Doubles that denote integers: each is the nearest double of its
integer, and only zeros denote zero. -/

namespace RecordFilter

namespace Double

variable {double : Double} {value : Int}

/-- A double denotes an integer: it has the same absolute value and
sign, which for zero is no minus. -/
structure Denotes (double : Double) (value : Int) : Prop where
  /-- The absolute value is that of the integer, without a fraction. -/
  units_eq : double.units = value.natAbs * unitsPerOne
  /-- The sign bit is set below zero, and only there. -/
  negative_eq : double.negative = decide (value < 0)

/-- An integer of up to fifty-three binary digits is denoted by the double nearest to it. -/
theorem denotes_ofInt (small : value.natAbs ≤ 2 ^ 53) : (ofInt value).Denotes value where
  units_eq := (exact_of_le small).units_eq
  negative_eq := rfl

/-- There is no other double that denotes it. -/
theorem Denotes.eq_ofInt (denotes : double.Denotes value) (small : value.natAbs ≤ 2 ^ 53) :
    double = ofInt value := by
  have nearest := denotes_ofInt small
  have units : unitsOf double.magnitude = unitsOf (ofInt value).magnitude :=
    denotes.units_eq.trans nearest.units_eq.symm
  -- Different magnitudes hold the smallest double a different number of times.
  have magnitude := unitsOf_strictMono.injective units
  have negative := denotes.negative_eq.trans nearest.negative_eq.symm
  cases double
  simp_all

/-- A double that denotes an integer has no fraction. -/
theorem Denotes.isIntegral (denotes : double.Denotes value) : double.isIntegral = true := by
  rw [Double.isIntegral, denotes.units_eq, Nat.mul_mod_left]
  rfl

/-- Its whole part is the absolute value of the integer. -/
theorem Denotes.wholePart_eq (denotes : double.Denotes value) : double.wholePart = value.natAbs := by
  rw [wholePart, denotes.units_eq, Nat.mul_div_cancel _ unitsPerOne_pos]

/-- Only zeros stand at zero in the order. -/
theorem isZero_iff_key : double.isZero = true ↔ double.key = 0 := by
  rw [isZero, beq_iff_eq, key]
  split <;> omega

/-- No integer of sixty-four bits but zero is rounded to zero. -/
theorem isZero_ofInt_iff (inRange : value.natAbs < 2 ^ 64) :
    (ofInt value).isZero = true ↔ value = 0 := by
  rw [isZero_iff_key]
  constructor
  · intro zero
    have units : rounded value * unitsPerOne = 0 := by
      rw [← unitsAt_ofInt inRange, zero]
      rfl
    have positive : (unitsPerOne : Int) ≠ 0 := Int.natCast_ne_zero.mpr unitsPerOne_pos.ne'
    have none_ : rounded value = rounded 0 := (Int.mul_eq_zero.mp units).resolve_right positive
    -- Rounding keeps every other integer apart from zero.
    by_contra differs
    exact rounded_ne inRange (by decide) differs (.inr (.inl (by decide))) none_
  · rintro rfl
    decide +kernel

end Double

end RecordFilter
