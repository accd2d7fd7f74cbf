import RecordFilter.Proofs.Comparison.Order
import RecordFilter.Proofs.Numeric.Rounding

/-! Integers of both kinds are compared by their exact values, and so are in one linear order. -/

namespace RecordFilter

/-- An integer that fits in 64 bits, with a sign bit or without one. -/
abbrev Integer64 := { value : Int // -9223372036854775808 ≤ value ∧ value < 18446744073709551616 }

/-- An integer as a document. -/
def Json.ofInteger (value : Integer64) : Json :=
  number (.integer value.1 value.2)

namespace Number

/-- An integer below the unsigned half of the range is a signed one. -/
theorem asSigned?_integer_of_lt (value : Integer64) (low : value.1 < 9223372036854775808) :
    (integer value.1 value.2).asSigned? = some value.1 :=
  if_pos low

/-- An integer in the unsigned half of the range is no signed one. -/
theorem asSigned?_integer_of_le (value : Integer64) (high : 9223372036854775808 ≤ value.1) :
    (integer value.1 value.2).asSigned? = none :=
  if_neg (by omega)

/-- An integer that is not negative is an unsigned one. -/
theorem asUnsigned?_integer_of_nonneg (value : Integer64) (nonnegative : 0 ≤ value.1) :
    (integer value.1 value.2).asUnsigned? = some value.1 :=
  if_pos nonnegative

/-- A negative integer is no unsigned one. -/
theorem asUnsigned?_integer_of_neg (value : Integer64) (negative : value.1 < 0) :
    (integer value.1 value.2).asUnsigned? = none :=
  if_neg (by omega)

/-- A negative integer stays below one that is not, since rounding keeps zero between the two. -/
theorem order_ofInt_of_signs {low high : Integer64} (negative : low.1 < 0)
    (nonnegative : 0 ≤ high.1) : (Double.ofInt low.1).order (Double.ofInt high.1) = .lt := by
  have lowRange := low.2
  have highRange := high.2
  -- Zero is rounded to itself, and lies between what the two are rounded to.
  have below : Double.rounded low.1 < Double.rounded 0 := by
    apply Double.rounded_lt negative
    exact .inr (by decide)
  have above : Double.rounded 0 ≤ Double.rounded high.1 := Double.rounded_mono nonnegative
  rw [Double.order_ofInt (by omega) (by omega)]
  exact compare_lt_iff_lt.mpr (by omega)

/-- A negative integer is below one that is too large to be signed,
though both are compared as doubles. -/
theorem looseCompare_integer_of_signs {low high : Integer64} (negative : low.1 < 0)
    (large : 9223372036854775808 ≤ high.1) :
    (integer low.1 low.2).looseCompare (integer high.1 high.2) = .lt := by
  have small : low.1 < 9223372036854775808 := by omega
  have nonnegative : 0 ≤ high.1 := by omega
  -- The large one is not signed and the negative one not unsigned,
  -- so neither exact comparison applies.
  unfold looseCompare
  simp only [asSigned?_integer_of_lt low small, asSigned?_integer_of_le high large,
    asUnsigned?_integer_of_neg low negative]
  exact order_ofInt_of_signs negative nonnegative

/-- Two integers are in the order of their values, whichever of the comparisons they reach. -/
theorem looseCompare_integer (left right : Integer64) :
    (integer left.1 left.2).looseCompare (integer right.1 right.2) = compare left.1 right.1 := by
  -- The cases are the ranges: below the unsigned half, in it, and below zero.
  by_cases leftLow : left.1 < 9223372036854775808
  · by_cases rightLow : right.1 < 9223372036854775808
    · -- Both are signed.
      unfold looseCompare
      simp only [asSigned?_integer_of_lt left leftLow, asSigned?_integer_of_lt right rightLow]
    · have rightHigh : 9223372036854775808 ≤ right.1 := by omega
      by_cases negative : left.1 < 0
      · rw [looseCompare_integer_of_signs negative rightHigh]
        exact (compare_lt_iff_lt.mpr (by omega)).symm
      · -- The right one is not signed, but both are unsigned.
        have leftUnsigned := asUnsigned?_integer_of_nonneg left (by omega)
        have rightUnsigned := asUnsigned?_integer_of_nonneg right (by omega)
        unfold looseCompare
        simp only [asSigned?_integer_of_lt left leftLow, asSigned?_integer_of_le right rightHigh,
          leftUnsigned, rightUnsigned]
  · have leftHigh : 9223372036854775808 ≤ left.1 := by omega
    by_cases negative : right.1 < 0
    · rw [looseCompare_swap, looseCompare_integer_of_signs negative leftHigh]
      exact (compare_gt_iff_gt.mpr (by omega)).symm
    · have leftUnsigned := asUnsigned?_integer_of_nonneg left (by omega)
      have rightUnsigned := asUnsigned?_integer_of_nonneg right (by omega)
      unfold looseCompare
      simp only [asSigned?_integer_of_le left leftHigh, leftUnsigned, rightUnsigned]

end Number

namespace Json

variable {left right : Integer64}

/-- Integers as documents are in the order of their values. -/
theorem looseCompare_ofInteger (left right : Integer64) :
    (ofInteger left).looseCompare (ofInteger right) = some (compare left.1 right.1) :=
  congrArg some (Number.looseCompare_integer left right)

/-- Integers as documents are loosely equal exactly when they are the same. -/
theorem looseEq_ofInteger_iff : (ofInteger left).looseEq (ofInteger right) = true ↔ left = right := by
  have comparable : Comparable (ofInteger left) (ofInteger right) := .quantities rfl rfl
  rw [looseEq_iff_looseCompare comparable, looseCompare_ofInteger, Option.some.injEq, Subtype.ext_iff]
  exact Std.LawfulEqCmp.compare_eq_iff_eq

/-- Whether one value is in order with another, and not above it. -/
def NotAbove (left right : Json) : Prop :=
  ∃ order ∈ left.looseCompare right, order ≠ .gt

/-- An integer is not above another exactly when its value is not. -/
theorem notAbove_ofInteger_iff : (ofInteger left).NotAbove (ofInteger right) ↔ left ≤ right := by
  simp only [NotAbove, looseCompare_ofInteger, Option.mem_def, Option.some.injEq, exists_eq_left', ne_eq,
    compare_gt_iff_gt, not_lt, Subtype.coe_le_coe]

/--
Integers of 64 bits are loosely equal exactly when they are the same, and are in the order of their
values, whether they have a sign bit or not. This includes a negative one and one too large for a
sign bit, which have to be compared as doubles. So loose order on integers is a linear order: any
two are in order, two that are not above one another are the same, and what is not above a second
one that is not above a third is not above the third.
-/
theorem integers_comparedByValue :
    (∀ left right : Integer64, (ofInteger left).looseEq (ofInteger right) = true ↔ left = right) ∧
    (∀ left right : Integer64,
      (ofInteger left).looseCompare (ofInteger right) = some (compare left.1 right.1)) ∧
    (∀ left right : Integer64,
      (ofInteger left).NotAbove (ofInteger right) ∨ (ofInteger right).NotAbove (ofInteger left)) ∧
    (∀ left right : Integer64, (ofInteger left).NotAbove (ofInteger right) →
      (ofInteger right).NotAbove (ofInteger left) → left = right) ∧
    ∀ first second third : Integer64, (ofInteger first).NotAbove (ofInteger second) →
      (ofInteger second).NotAbove (ofInteger third) → (ofInteger first).NotAbove (ofInteger third) := by
  -- So the laws of a linear order are those of the integers themselves.
  simp only [notAbove_ofInteger_iff]
  exact ⟨fun _ _ => looseEq_ofInteger_iff, looseCompare_ofInteger, le_total,
    fun _ _ => le_antisymm, fun _ _ _ => le_trans⟩

/-- The least signed integer is below the greatest unsigned one, with
the first unsigned one between them. -/
theorem integers_comparedByValue_extremes :
    (ofInteger ⟨-9223372036854775808, by decide⟩).NotAbove (ofInteger ⟨9223372036854775808, by decide⟩) ∧
      (ofInteger ⟨9223372036854775808, by decide⟩).NotAbove
        (ofInteger ⟨18446744073709551615, by decide⟩) ∧
      (ofInteger ⟨-9223372036854775808, by decide⟩).NotAbove
        (ofInteger ⟨18446744073709551615, by decide⟩) ∧
      (ofInteger ⟨-9223372036854775808, by decide⟩).looseCompare
        (ofInteger ⟨18446744073709551615, by decide⟩) = some .lt := by
  obtain ⟨-, order, -, -, transitive⟩ := integers_comparedByValue
  have low : (ofInteger ⟨-9223372036854775808, by decide⟩).NotAbove
      (ofInteger ⟨9223372036854775808, by decide⟩) := ⟨.lt, order _ _, by decide⟩
  have high : (ofInteger ⟨9223372036854775808, by decide⟩).NotAbove
      (ofInteger ⟨18446744073709551615, by decide⟩) := ⟨.lt, order _ _, by decide⟩
  exact ⟨low, high, transitive _ _ _ low high, order _ _⟩

end Json

end RecordFilter
