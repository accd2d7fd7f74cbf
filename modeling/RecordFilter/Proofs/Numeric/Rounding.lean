import Mathlib
import RecordFilter.Numeric.Double

/-! Integers as doubles: fifty-three significant binary digits are kept, order is never turned
around, and small integers are exact. -/

namespace RecordFilter

/-- The powers of two are those of the library. -/
theorem twoTo_eq (exponent : Nat) : twoTo exponent = 2 ^ exponent := rfl

/-- A power of two is positive. -/
theorem twoTo_pos (exponent : Nat) : 0 < twoTo exponent := Nat.two_pow_pos exponent

namespace Double

section Quotients

variable {dividend divisor bound value : Nat}

/-- A quotient is rounded to its whole part, or to the next number if the remainder is large. -/
theorem roundQuotient_cases (dividend divisor : Nat) :
    roundQuotient dividend divisor = dividend / divisor ∧ 2 * (dividend % divisor) ≤ divisor ∨
      roundQuotient dividend divisor = dividend / divisor + 1 ∧
        divisor ≤ 2 * (dividend % divisor) := by
  -- Which way a tie goes depends on the whole part, and either case allows for it.
  unfold roundQuotient
  simp only [Bool.or_eq_true, Bool.and_eq_true, decide_eq_true_eq, beq_iff_eq]
  split
  · exact .inr ⟨rfl, by omega⟩
  · exact .inl ⟨rfl, by omega⟩

/-- What is not below a multiple of the divisor is not rounded below it. -/
theorem le_roundQuotient (positive : 0 < divisor) (le : bound * divisor ≤ dividend) :
    bound ≤ roundQuotient dividend divisor := by
  have quotient : bound ≤ dividend / divisor := (Nat.le_div_iff_mul_le positive).mpr le
  rcases roundQuotient_cases dividend divisor with ⟨rounded, _⟩ | ⟨rounded, _⟩ <;> omega

/-- What is below a multiple of the divisor is not rounded above it. -/
theorem roundQuotient_le (positive : 0 < divisor) (lt : dividend < bound * divisor) :
    roundQuotient dividend divisor ≤ bound := by
  have quotient : dividend / divisor < bound := (Nat.div_lt_iff_lt_mul positive).mpr lt
  rcases roundQuotient_cases dividend divisor with ⟨rounded, _⟩ | ⟨rounded, _⟩ <;> omega

/-- A multiple of the divisor is rounded to how often it holds the divisor. -/
theorem roundQuotient_mul (positive : 0 < divisor) :
    roundQuotient (value * divisor) divisor = value := by
  -- The remainder is zero, and zero is no half of a positive divisor.
  have noTie : ¬0 = divisor := by omega
  simp [roundQuotient, Nat.mul_div_cancel _ positive, noTie]

/-- Quotients are rounded in their order. -/
theorem roundQuotient_mono (le : value ≤ dividend) :
    roundQuotient value divisor ≤ roundQuotient dividend divisor := by
  have quotients : value / divisor ≤ dividend / divisor := Nat.div_le_div_right le
  by_cases same : value / divisor = dividend / divisor
  · -- With the same whole part the remainders are in order, and the larger one decides alike.
    have remainders : value % divisor ≤ dividend % divisor := by
      have first := Nat.div_add_mod value divisor
      have second := Nat.div_add_mod dividend divisor
      rw [same] at first
      omega
    unfold roundQuotient
    simp only [Bool.or_eq_true, Bool.and_eq_true, decide_eq_true_eq, beq_iff_eq, same]
    split <;> split <;> omega
  · -- With whole parts in order, rounding up the lesser one does not get past the other.
    rcases roundQuotient_cases value divisor with ⟨first, _⟩ | ⟨first, _⟩ <;>
      rcases roundQuotient_cases dividend divisor with ⟨second, _⟩ | ⟨second, _⟩ <;> omega

/-- A quotient is rounded by its value, whatever factor both sides have in common. -/
theorem roundQuotient_scale {factor : Nat} (positive : 0 < factor) :
    roundQuotient (dividend * factor) (divisor * factor) = roundQuotient dividend divisor := by
  have twice : 2 * (dividend % divisor * factor) = 2 * (dividend % divisor) * factor :=
    (Nat.mul_assoc ..).symm
  -- The whole part stays, and remainder and divisor grow by the same factor.
  unfold roundQuotient
  simp only [Nat.mul_div_mul_right _ _ positive, Nat.mul_mod_mul_right, twice, Bool.or_eq_true,
    Bool.and_eq_true, decide_eq_true_eq, beq_iff_eq, gt_iff_lt, Nat.mul_lt_mul_right positive,
    Nat.mul_right_cancel_iff positive]

/-- A quotient is rounded by no more than half. -/
theorem roundQuotient_error (positive : 0 < divisor) (dividend : Nat) :
    2 * (roundQuotient dividend divisor * divisor) ≤ 2 * dividend + divisor ∧
      2 * dividend ≤ 2 * (roundQuotient dividend divisor * divisor) + divisor := by
  have parts := Nat.div_add_mod dividend divisor
  have remainder := Nat.mod_lt dividend positive
  rw [Nat.mul_comm] at parts
  -- What is dropped, or filled up, is no more than half the divisor.
  rcases roundQuotient_cases dividend divisor with ⟨rounded, half⟩ | ⟨rounded, half⟩
  · rw [rounded]
    omega
  · rw [rounded, Nat.add_mul, Nat.one_mul]
    omega

end Quotients

/-- A natural number with only its first fifty-three binary digits kept,
rounded to nearest, ties to even. -/
def significant (value : Nat) : Nat :=
  let place := 2 ^ (value.log2 - 52)
  roundQuotient value place * place

section Significant

variable {value other : Nat}

/-- A number is not rounded out of the range between the powers of two around it. -/
theorem significant_bounds (positive : value ≠ 0) :
    2 ^ value.log2 ≤ significant value ∧ significant value ≤ 2 ^ (value.log2 + 1) := by
  have place : 0 < 2 ^ (value.log2 - 52) := Nat.two_pow_pos _
  -- Both powers are multiples of the place that is rounded to.
  have low := Nat.pow_sub_mul_pow 2 (show value.log2 - 52 ≤ value.log2 by omega)
  have high := Nat.pow_sub_mul_pow 2 (show value.log2 - 52 ≤ value.log2 + 1 by omega)
  constructor
  · rw [← low]
    refine Nat.mul_le_mul_right _ (le_roundQuotient place ?_)
    rw [low]
    exact Nat.log2_self_le positive
  · rw [← high]
    refine Nat.mul_le_mul_right _ (roundQuotient_le place ?_)
    rw [high]
    exact Nat.lt_log2_self

/-- Numbers are rounded in their order. -/
theorem significant_mono (le : value ≤ other) : significant value ≤ significant other := by
  by_cases zero : value = 0
  · simp [zero, significant, roundQuotient]
  · have otherPositive : other ≠ 0 := by omega
    -- Each number is rounded to a place of its own, by the number of its digits.
    have logs : value.log2 ≤ other.log2 :=
      (Nat.le_log2 otherPositive).mpr (Nat.le_trans (Nat.log2_self_le zero) le)
    rcases Nat.eq_or_lt_of_le logs with same | less
    · unfold significant
      rw [same]
      exact Nat.mul_le_mul_right _ (roundQuotient_mono le)
    · -- A power of two lies between the two, and neither is rounded across it.
      calc significant value ≤ 2 ^ (value.log2 + 1) := (significant_bounds zero).2
        _ ≤ 2 ^ other.log2 := Nat.pow_le_pow_right (by decide) less
        _ ≤ significant other := (significant_bounds otherPositive).1

/-- Numbers of no more than fifty-three binary digits, and the next one, are kept as they are. -/
theorem significant_of_le (small : value ≤ 2 ^ 53) : significant value = value := by
  -- The power itself has a digit more, but that digit is a zero.
  rcases Nat.eq_or_lt_of_le small with rfl | less
  · decide +kernel
  · -- The place that is rounded to is that of the ones.
    have place : value.log2 - 52 = 0 := by
      by_cases zero : value = 0
      · simp [zero]
      · have := (Nat.log2_lt zero).mpr less
        omega
    have whole : roundQuotient (value * 1) 1 = value := roundQuotient_mul Nat.one_pos
    simp only [Nat.mul_one] at whole
    simp only [significant, place, Nat.pow_zero, Nat.mul_one, whole]

/-- A number is rounded by no more than half the place that it is rounded to. -/
theorem significant_error (value : Nat) :
    2 * significant value ≤ 2 * value + 2 ^ (value.log2 - 52) ∧
      2 * value ≤ 2 * significant value + 2 ^ (value.log2 - 52) :=
  roundQuotient_error (Nat.two_pow_pos _) value

end Significant

section Units

/-- A double above the subnormal ones counts its fraction with the implied digit. -/
theorem unitsOf_normal {magnitude : Nat} (normal : 2 ^ 52 ≤ magnitude) :
    unitsOf magnitude = (2 ^ 52 + magnitude % 2 ^ 52) * 2 ^ (magnitude / 2 ^ 52 - 1) :=
  if_neg (Nat.not_lt.mpr normal)

/-- A subnormal double has no implied digit. -/
theorem unitsOf_subnormal {magnitude : Nat} (subnormal : magnitude < 2 ^ 52) :
    unitsOf magnitude = magnitude :=
  if_pos subnormal

/-- Doubles above one another hold the smallest one more often. -/
theorem unitsOf_strictMono : StrictMono unitsOf := by
  intro low high less
  -- A double has an implied digit or none, and only the lower of the two may lack one.
  by_cases highNormal : 2 ^ 52 ≤ high
  · rw [unitsOf_normal highNormal]
    have power : 0 < 2 ^ (high / 2 ^ 52 - 1) := Nat.two_pow_pos _
    by_cases lowNormal : 2 ^ 52 ≤ low
    · rw [unitsOf_normal lowNormal]
      by_cases same : low / 2 ^ 52 = high / 2 ^ 52
      · rw [same]
        exact Nat.mul_lt_mul_of_pos_right (by omega) power
      · -- The lower double lies below the power of two at which the exponent of the higher one starts.
        have exponents : low / 2 ^ 52 ≤ high / 2 ^ 52 - 1 := by omega
        have next : 2 ^ 53 * 2 ^ (low / 2 ^ 52 - 1) = 2 ^ 52 * 2 ^ (low / 2 ^ 52) := by
          rw [← Nat.pow_add, ← Nat.pow_add]
          congr 1
          omega
        calc (2 ^ 52 + low % 2 ^ 52) * 2 ^ (low / 2 ^ 52 - 1)
          _ < 2 ^ 53 * 2 ^ (low / 2 ^ 52 - 1) :=
            Nat.mul_lt_mul_of_pos_right (by omega) (Nat.two_pow_pos _)
          _ = 2 ^ 52 * 2 ^ (low / 2 ^ 52) := next
          _ ≤ (2 ^ 52 + high % 2 ^ 52) * 2 ^ (high / 2 ^ 52 - 1) :=
            Nat.mul_le_mul (by omega) (Nat.pow_le_pow_right (by decide) exponents)
    · -- Below the first implied digit there are only subnormal doubles.
      rw [unitsOf_subnormal (by omega)]
      calc low < 2 ^ 52 * 1 := by omega
        _ ≤ (2 ^ 52 + high % 2 ^ 52) * 2 ^ (high / 2 ^ 52 - 1) := Nat.mul_le_mul (by omega) power
  · rw [unitsOf_subnormal (by omega), unitsOf_subnormal (by omega)]
    exact less

/-- A fraction of fifty-three digits, the first of them implied, counts places of the exponent. -/
theorem unitsOf_place {place fraction : Nat} (low : 2 ^ 52 ≤ fraction) (high : fraction ≤ 2 ^ 53) :
    unitsOf (place * 2 ^ 52 + fraction) = fraction * 2 ^ place := by
  rw [unitsOf_normal (by omega)]
  rcases Nat.eq_or_lt_of_le high with rfl | less
  · -- A fraction that was rounded up to the next power of two has moved on to the next exponent.
    have exponent : (place * 2 ^ 52 + 2 ^ 53) / 2 ^ 52 - 1 = place + 1 := by omega
    have rest : (place * 2 ^ 52 + 2 ^ 53) % 2 ^ 52 = 0 := by omega
    rw [exponent, rest, Nat.pow_succ]
    omega
  · have exponent : (place * 2 ^ 52 + fraction) / 2 ^ 52 - 1 = place := by omega
    have rest : 2 ^ 52 + (place * 2 ^ 52 + fraction) % 2 ^ 52 = fraction := by omega
    rw [exponent, rest]

end Units

/-- Every doubling adds one binary digit. -/
theorem log2_mul_pow {value : Nat} (positive : value ≠ 0) (places : Nat) :
    (value * 2 ^ places).log2 = value.log2 + places := by
  have power : 0 < 2 ^ places := Nat.two_pow_pos _
  -- Both powers of two around the number are doubled along with it.
  refine (Nat.log2_eq_iff (Nat.mul_ne_zero positive (Nat.ne_of_gt power))).mpr ⟨?_, ?_⟩
  · rw [Nat.pow_add]
    exact Nat.mul_le_mul_right _ (Nat.log2_self_le positive)
  · rw [Nat.add_right_comm, Nat.pow_add]
    exact Nat.mul_lt_mul_of_pos_right Nat.lt_log2_self power

section Places

variable {value depth : Nat}

/-- The digits that are left of a number are fifty-three, or the power of two above those. -/
theorem fraction_bounds (positive : value ≠ 0) (deep : 52 ≤ depth) :
    2 ^ 52 ≤ roundQuotient (value * 2 ^ depth) (2 ^ (value.log2 + depth - 52)) ∧
      roundQuotient (value * 2 ^ depth) (2 ^ (value.log2 + depth - 52)) ≤ 2 ^ 53 := by
  have power : 0 < 2 ^ (value.log2 + depth - 52) := Nat.two_pow_pos _
  -- The number lies between two powers of two, and these are multiples of the place cut at.
  constructor
  · refine le_roundQuotient power ?_
    rw [← Nat.pow_add, show 52 + (value.log2 + depth - 52) = value.log2 + depth by omega, Nat.pow_add]
    exact Nat.mul_le_mul_right _ (Nat.log2_self_le positive)
  · refine roundQuotient_le power ?_
    rw [← Nat.pow_add, show 53 + (value.log2 + depth - 52) = value.log2 + 1 + depth by omega,
      Nat.pow_add]
    exact Nat.mul_lt_mul_of_pos_right Nat.lt_log2_self (Nat.two_pow_pos _)

/-- Those digits are the ones that rounding keeps, however far the
number is moved before it is cut. -/
theorem fraction_eq (positive : value ≠ 0) (deep : 52 ≤ depth) :
    roundQuotient (value * 2 ^ depth) (2 ^ (value.log2 + depth - 52)) *
        2 ^ (value.log2 + depth - 52) = significant value * 2 ^ depth := by
  by_cases long : 52 ≤ value.log2
  · -- The places cut off are those of the number itself, since all else is a common factor.
    have exponent : value.log2 + depth - 52 = value.log2 - 52 + depth := by omega
    rw [exponent, Nat.pow_add, roundQuotient_scale (Nat.two_pow_pos _), ← Nat.mul_assoc]
    rfl
  · -- A short number is moved far enough for nothing to be cut off.
    have small : value ≤ 2 ^ 53 := by
      have : value < 2 ^ 52 := (Nat.log2_lt positive).mp (by omega)
      omega
    have moved : value * 2 ^ depth =
        value * 2 ^ (52 - value.log2) * 2 ^ (value.log2 + depth - 52) := by
      rw [Nat.mul_assoc, ← Nat.pow_add]
      congr 2
      omega
    rw [significant_of_le small, moved, roundQuotient_mul (Nat.two_pow_pos _)]

end Places

/-- There are as many of the smallest double in one as a power of two says. -/
theorem unitsPerOne_eq : unitsPerOne = 2 ^ 1074 := by
  rw [unitsPerOne, twoTo_eq]

/-- A natural number is moved until fifty-three of its digits are left, and these are rounded. -/
theorem nearestMagnitude_one {value : Nat} (positive : value ≠ 0) :
    nearestMagnitude value 1 = (value.log2 + 1074 - 52) * 2 ^ 52 +
      roundQuotient (value * 2 ^ 1074) (2 ^ (value.log2 + 1074 - 52)) := by
  -- As the divisor is one, the place is told by the digits of the number alone.
  simp only [nearestMagnitude, unitsPerOne, twoTo_eq, Nat.div_one, Nat.one_mul,
    log2_mul_pow positive]

/-- The double nearest to a natural number is the number rounded to fifty-three digits. -/
theorem unitsOf_nearestMagnitude (value : Nat) :
    unitsOf (nearestMagnitude value 1) = significant value * unitsPerOne := by
  by_cases zero : value = 0
  · subst zero
    simp [nearestMagnitude, significant, roundQuotient, unitsOf, twoTo_eq]
  · have deep : 52 ≤ 1074 := by decide
    obtain ⟨low, high⟩ := fraction_bounds zero deep
    -- The exponent of the double is its place, and its fraction the digits that were kept.
    rw [nearestMagnitude_one zero, unitsOf_place low high, fraction_eq zero deep, unitsPerOne_eq]

/-- An integer with only its first fifty-three binary digits kept,
rounded to nearest, ties to even. -/
def rounded (value : Int) : Int :=
  if value < 0 then -(significant value.natAbs : Int) else significant value.natAbs

section Integers

variable {value other : Int}

/-- Integers are rounded in their order. -/
theorem rounded_mono (le : value ≤ other) : rounded value ≤ rounded other := by
  -- Only the signs decide how the absolute values are compared.
  unfold rounded
  split <;> split
  · have := significant_mono (show other.natAbs ≤ value.natAbs by omega)
    omega
  · omega
  · omega
  · have := significant_mono (show value.natAbs ≤ other.natAbs by omega)
    omega

/-- Small integers are kept as they are. -/
theorem rounded_of_le (small : value.natAbs ≤ 2 ^ 53) : rounded value = value := by
  unfold rounded
  rw [significant_of_le small]
  split <;> omega

/-- Different integers stay different unless both are large. -/
theorem rounded_lt (less : value < other) (small : value.natAbs < 2 ^ 53 ∨ other.natAbs < 2 ^ 53) :
    rounded value < rounded other := by
  rcases small with small | small
  · -- The next integer is not rounded either, and the other one is not rounded below it.
    have kept := rounded_of_le (show value.natAbs ≤ 2 ^ 53 by omega)
    have next := rounded_of_le (show (value + 1).natAbs ≤ 2 ^ 53 by omega)
    have := rounded_mono (show value + 1 ≤ other by omega)
    omega
  · have kept := rounded_of_le (show other.natAbs ≤ 2 ^ 53 by omega)
    have previous := rounded_of_le (show (other - 1).natAbs ≤ 2 ^ 53 by omega)
    have := rounded_mono (show value ≤ other - 1 by omega)
    omega

/-- Integers that rounding keeps apart are in the order of what they are rounded to. -/
theorem compare_rounded (apart : value = other ∨ rounded value ≠ rounded other) :
    compare (rounded value) (rounded other) = compare value other := by
  -- Order is never turned around, so what is kept apart stays in its order.
  rcases lt_trichotomy value other with less | same | greater
  · have := rounded_mono (Int.le_of_lt less)
    rw [compare_lt_iff_lt.mpr less]
    exact compare_lt_iff_lt.mpr (by omega)
  · simp [same]
  · have := rounded_mono (Int.le_of_lt greater)
    rw [compare_gt_iff_gt.mpr greater]
    exact compare_gt_iff_gt.mpr (by omega)

/-- Integers of sixty-four bits are rounded by no more than half the largest place. -/
theorem rounded_error (inRange : value.natAbs < 2 ^ 64) :
    2 * rounded value ≤ 2 * value + 2 ^ 11 ∧ 2 * value ≤ 2 * rounded value + 2 ^ 11 := by
  -- At most sixty-four digits leave eleven to be cut off.
  have place : 2 ^ (value.natAbs.log2 - 52) ≤ 2 ^ 11 := by
    refine Nat.pow_le_pow_right (by decide) ?_
    by_cases zero : value.natAbs = 0
    · simp [zero]
    · have := (Nat.log2_lt zero).mpr inRange
      omega
  have error := significant_error value.natAbs
  unfold rounded
  split <;> omega

/-- Integers are kept apart if one of them is small, or if they are far apart already. -/
theorem rounded_ne (valueRange : value.natAbs < 2 ^ 64) (otherRange : other.natAbs < 2 ^ 64)
    (differs : value ≠ other)
    (apart : value.natAbs < 2 ^ 53 ∨ other.natAbs < 2 ^ 53 ∨ 2 ^ 11 < (value - other).natAbs) :
    rounded value ≠ rounded other := by
  rw [← or_assoc] at apart
  rcases apart with small | far
  · rcases lt_or_gt_of_ne differs with less | greater
    · exact Int.ne_of_lt (rounded_lt less small)
    · exact Int.ne_of_gt (rounded_lt greater small.symm)
  · -- Either is moved by half a place at most, and both together by no more than one.
    have valueError := rounded_error valueRange
    have otherError := rounded_error otherRange
    omega

end Integers

/-- The number of units of a double by its place in the order. -/
def unitsAt (key : Int) : Int :=
  if key < 0 then -(unitsOf key.natAbs : Int) else unitsOf key.natAbs

/-- Doubles in order hold the smallest one in order. -/
theorem unitsAt_strictMono : StrictMono unitsAt := by
  intro low high less
  have zero : unitsOf 0 = 0 := rfl
  unfold unitsAt
  split <;> split
  · have := unitsOf_strictMono (show high.natAbs < low.natAbs by omega)
    omega
  · -- A double below zero holds the smallest one at least once.
    have := unitsOf_strictMono (show 0 < low.natAbs by omega)
    omega
  · omega
  · have := unitsOf_strictMono (show low.natAbs < high.natAbs by omega)
    omega

/-- No natural number below a large power of two is rounded to infinity. -/
theorem nearestMagnitude_lt {value : Nat} (inRange : value < 2 ^ 256) :
    nearestMagnitude value 1 < infinityBits := by
  by_cases zero : value = 0
  · subst zero
    decide +kernel
  · have log : value.log2 < 256 := (Nat.log2_lt zero).mpr inRange
    -- The exponent is too small for infinity, even where the digits are rounded up to the next one.
    have high := (fraction_bounds zero (show 52 ≤ 1074 by decide)).2
    rw [nearestMagnitude_one zero, infinityBits, twoTo_eq]
    generalize roundQuotient _ _ = fraction at high ⊢
    omega

/-- The double nearest to an integer is the integer rounded to fifty-three digits. -/
theorem unitsAt_ofInt {value : Int} (inRange : value.natAbs < 2 ^ 64) :
    unitsAt (ofInt value).key = rounded value * unitsPerOne := by
  have room : value.natAbs < 2 ^ 256 :=
    Nat.lt_trans inRange (Nat.pow_lt_pow_right (by decide) (by decide))
  -- The double is finite, so nothing is cut off at infinity.
  have magnitude : (ofInt value).magnitude = nearestMagnitude value.natAbs 1 :=
    Nat.min_eq_left (Nat.le_of_lt (nearestMagnitude_lt room))
  have units := unitsOf_nearestMagnitude value.natAbs
  rw [← magnitude] at units
  unfold rounded key unitsAt
  by_cases negative : value < 0
  · have sign : (ofInt value).negative = true := decide_eq_true negative
    simp only [sign, negative, if_true, Int.neg_mul]
    -- The sign is lost only with the number itself.
    split
    · rw [Int.natAbs_neg, Int.natAbs_natCast, units, Int.natCast_mul]
    · have none_ : (ofInt value).magnitude = 0 := by omega
      rw [none_] at units ⊢
      rw [← Int.natCast_mul, ← units]
      rfl
  · have sign : (ofInt value).negative = false := decide_eq_false negative
    simp only [sign, negative, if_false, Bool.false_eq_true]
    rw [if_neg (by omega), Int.natAbs_natCast, units, Int.natCast_mul]

/-- A comparison is the same behind a strictly monotone function. -/
theorem compare_of_strictMono {place : Int → Int} (mono : StrictMono place) (left right : Int) :
    compare (place left) (place right) = compare left right := by
  rw [← cmp_eq_compare, mono.cmp_map_eq, cmp_eq_compare]

/-- The nearest doubles of two integers are in the order of the rounded integers. -/
theorem order_ofInt {value other : Int} (valueRange : value.natAbs < 2 ^ 64)
    (otherRange : other.natAbs < 2 ^ 64) :
    (ofInt value).order (ofInt other) = compare (rounded value) (rounded other) := by
  have positive : 0 < unitsPerOne := twoTo_pos 1074
  have scaled : StrictMono fun value : Int => value * unitsPerOne := fun _ _ less =>
    Int.mul_lt_mul_of_pos_right less (Int.natCast_pos.mpr positive)
  -- The order of doubles is that of their keys, which count units, and these are the rounded
  -- integers in units of one.
  calc (ofInt value).order (ofInt other)
    _ = compare (unitsAt (ofInt value).key) (unitsAt (ofInt other).key) :=
      (compare_of_strictMono unitsAt_strictMono _ _).symm
    _ = compare (rounded value * unitsPerOne) (rounded other * unitsPerOne) := by
      rw [unitsAt_ofInt valueRange, unitsAt_ofInt otherRange]
    _ = compare (rounded value) (rounded other) := compare_of_strictMono scaled _ _

end Double

end RecordFilter
