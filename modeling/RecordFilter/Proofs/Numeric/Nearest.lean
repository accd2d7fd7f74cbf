import RecordFilter.Proofs.Numeric.Quotients

/-! A quotient close enough to a double is rounded to it. -/

namespace RecordFilter

namespace Double

variable {dividend divisor value place magnitude : Nat}

/-- A quotient less than half from a natural number is rounded to it. -/
theorem roundQuotient_of_near (positive : 0 < divisor)
    (low : 2 * (value * divisor) < 2 * dividend + divisor)
    (high : 2 * dividend < 2 * (value * divisor) + divisor) :
    roundQuotient dividend divisor = value := by
  -- All is measured in halves of a divisor, where whole numbers are told apart by a full one.
  have parts := Nat.div_add_mod dividend divisor
  have remainder := Nat.mod_lt dividend positive
  rw [Nat.mul_comm] at parts
  rcases roundQuotient_cases dividend divisor with ⟨rounded, half⟩ | ⟨rounded, half⟩
  · -- The whole part is the number itself, which lies at most half below the quotient.
    have notAbove : dividend / divisor * divisor < (value + 1) * divisor := by
      rw [Nat.add_mul, Nat.one_mul]
      omega
    have notBelow : value * divisor < (dividend / divisor + 1) * divisor := by
      rw [Nat.add_mul, Nat.one_mul]
      omega
    have above := Nat.lt_of_mul_lt_mul_right notAbove
    have below := Nat.lt_of_mul_lt_mul_right notBelow
    omega
  · -- The whole part is the number before, and the remainder is rounded up.
    have notAbove : dividend / divisor * divisor < value * divisor := by omega
    have notBelow : value * divisor < (dividend / divisor + 2) * divisor := by
      rw [Nat.add_mul]
      omega
    have above := Nat.lt_of_mul_lt_mul_right notAbove
    have below := Nat.lt_of_mul_lt_mul_right notBelow
    omega

/-- The place of the last digit that is kept of a quotient, from the range the quotient lies in. -/
theorem shift_eq (positive : 0 < divisor)
    (low : place = 0 ∨ 2 ^ 52 * (divisor * 2 ^ place) ≤ dividend)
    (high : dividend < 2 ^ 53 * (divisor * 2 ^ place)) :
    (dividend / divisor).log2 - 52 = place := by
  -- The quotient has at most fifty-three digits above the place.
  have below : dividend / divisor < 2 ^ (53 + place) := by
    rw [Nat.div_lt_iff_lt_mul positive, Nat.pow_add]
    calc dividend < 2 ^ 53 * (divisor * 2 ^ place) := high
      _ = 2 ^ 53 * 2 ^ place * divisor := by ring
  by_cases zero : dividend / divisor = 0
  · -- A quotient below one has no digits, so its place is the lowest.
    rcases low with rfl | low
    · simp [zero]
    · have above : 1 ≤ dividend / divisor := by
        refine (Nat.le_div_iff_mul_le positive).mpr (Nat.le_trans ?_ low)
        calc 1 * divisor
          _ ≤ divisor * 2 ^ place * 2 ^ 52 := by
            rw [Nat.one_mul, Nat.mul_assoc]
            exact Nat.le_mul_of_pos_right _ (by positivity)
          _ = 2 ^ 52 * (divisor * 2 ^ place) := Nat.mul_comm ..
      omega
  · have logHigh : (dividend / divisor).log2 < 53 + place := (Nat.log2_lt zero).mpr below
    rcases low with rfl | low
    · omega
    · -- And it has at least that many, unless the place is the lowest there is.
      have logLow : 52 + place ≤ (dividend / divisor).log2 := by
        refine (Nat.le_log2 zero).mpr ((Nat.le_div_iff_mul_le positive).mpr ?_)
        calc 2 ^ (52 + place) * divisor
          _ = 2 ^ 52 * (divisor * 2 ^ place) := by rw [Nat.pow_add]; ring
          _ ≤ dividend := low
      omega

/-- A double is a fraction of at most fifty-three digits, shorter only at the lowest place. -/
theorem exists_place (magnitude : Nat) :
    ∃ place fraction, magnitude = place * 2 ^ 52 + fraction ∧
      unitsOf magnitude = fraction * 2 ^ place ∧ fraction < 2 ^ 53 ∧
      (place = 0 ∨ 2 ^ 52 ≤ fraction) := by
  -- The bits of the fraction are filled up by the leading one, except in a double that has none.
  by_cases normal : 2 ^ 52 ≤ magnitude
  · refine ⟨magnitude / 2 ^ 52 - 1, 2 ^ 52 + magnitude % 2 ^ 52, ?_, unitsOf_normal normal, ?_, ?_⟩
    · omega
    · omega
    · exact .inr (Nat.le_add_right _ _)
  · have small : magnitude < 2 ^ 52 := by omega
    refine ⟨0, magnitude, by omega, ?_, by omega, .inl rfl⟩
    rw [unitsOf_subnormal small, Nat.pow_zero, Nat.mul_one]

/-- A quotient that differs from a double by less than one part in two to the fifty-fourth is
rounded to it: no gap between neighbouring doubles is narrower than twice
that, not even below a power of two. -/
theorem nearestMagnitude_of_near (positive : 0 < divisor)
    (low : 2 ^ 54 * (unitsOf magnitude * divisor) <
      2 ^ 54 * (dividend * unitsPerOne) + unitsOf magnitude * divisor)
    (high : 2 ^ 54 * (dividend * unitsPerOne) <
      2 ^ 54 * (unitsOf magnitude * divisor) + unitsOf magnitude * divisor) :
    nearestMagnitude dividend divisor = magnitude := by
  obtain ⟨place, fraction, parts, units, small, leading⟩ := exists_place magnitude
  have same : unitsOf magnitude * divisor = fraction * (divisor * 2 ^ place) := by
    rw [units]
    ring
  rw [same] at low high
  have step : 0 < divisor * 2 ^ place := Nat.mul_pos positive (Nat.two_pow_pos _)
  -- In steps of its place the double has a fraction of at most fifty-three digits, so a part in two
  -- to the fifty-fourth is less than half a step.
  have bound : fraction * (divisor * 2 ^ place) ≤ (2 ^ 53 - 1) * (divisor * 2 ^ place) :=
    Nat.mul_le_mul_right _ (by omega)
  simp only [nearestMagnitude, twoTo_eq]
  generalize dividend * unitsPerOne = scaled at low high ⊢
  by_cases reached : place = 0 ∨ 2 ^ 52 * (divisor * 2 ^ place) ≤ scaled
  · -- The quotient lies among the doubles of this place, and half a step from none but this one.
    have shift : (scaled / divisor).log2 - 52 = place := shift_eq positive reached (by omega)
    rw [shift, parts]
    congr 1
    exact roundQuotient_of_near step (by omega) (by omega)
  · -- Only from a power of two down does a quotient fall to the place below, where it is rounded up again.
    rw [not_or] at reached
    obtain ⟨raised, missed⟩ := reached
    obtain ⟨lower, rfl⟩ : ∃ lower, place = lower + 1 := ⟨place - 1, by omega⟩
    -- The fraction is the least there is, or else the quotient would not fall so low.
    have power : fraction = 2 ^ 52 := by
      by_contra other
      have more : (2 ^ 52 + 1) * (divisor * 2 ^ (lower + 1)) ≤
          fraction * (divisor * 2 ^ (lower + 1)) := Nat.mul_le_mul_right _ (by omega)
      omega
    subst power
    -- At the place below, the steps are half as long, and the power is twice as many of them.
    have twice : divisor * 2 ^ (lower + 1) = 2 * (divisor * 2 ^ lower) := by
      rw [Nat.pow_succ]
      ring
    rw [twice] at low high missed
    have shift : (scaled / divisor).log2 - 52 = lower :=
      shift_eq positive (.inr (by omega)) (by omega)
    -- There the quotient is rounded to one more than fifty-three
    -- digits hold, and that carries over.
    have rounded : roundQuotient scaled (divisor * 2 ^ lower) = 2 ^ 53 :=
      roundQuotient_of_near (by omega) (by omega) (by omega)
    rw [shift, rounded, parts]
    omega

end Double

end RecordFilter
