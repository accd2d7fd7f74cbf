import RecordFilter.Proofs.Comparison.Order
import RecordFilter.Proofs.Numeric.Rounding

/-! Integers given as texts are compared as doubles: exactly where rounding keeps them apart, and
never the wrong way round. -/

namespace RecordFilter

namespace Decimal

/-- The text of an integer is read as its sign and its digits. -/
theorem read_integerText (value : Int) :
    read (integerText value) = some ⟨decide (value < 0), value.natAbs, 0⟩ := by
  have sign : takeSign (integerText value) = (decide (value < 0), digits value.natAbs) := by
    -- A minus is written for negative integers, and a plus never.
    by_cases negative : value < 0
    · simp [integerText, takeSign, negative]
    · simp [integerText, negative, (unsignedSpelled_digits value.natAbs).takeSign_eq]
  have whole : spanDigits (digits value.natAbs) = (digits value.natAbs, []) := by
    simpa using spanDigits_append (digits_isDigit value.natAbs) leaves_nil
  -- Nothing is left for a point or an exponent, and there is at least one digit.
  obtain ⟨first, more, parts, _⟩ := digits_leading value.natAbs
  have some_ : (digits value.natAbs).isEmpty = false := by rw [parts]; rfl
  simp [read, sign, whole, takeFraction, readExponent, some_, ofDigits_digits]

/-- A decimal that is an integer of sixty-four bits is rounded as the integer is. -/
theorem toDouble_integer {value : Int} (inRange : value.natAbs < 2 ^ 64) :
    (Decimal.mk (decide (value < 0)) value.natAbs 0).toDouble = Double.ofInt value := by
  have length : (digits value.natAbs).length ≤ 20 :=
    length_digits_le (by decide) (Nat.lt_trans inRange (by decide))
  by_cases zero : value = 0
  · -- Zero is not rounded at all.
    subst zero
    decide +kernel
  · have nonzero : value.natAbs ≠ 0 := by omega
    -- Twenty digits in front of the point are neither too many nor too few for a double.
    have near : ¬(0 + ((digits value.natAbs).length : Int) > 400) := by omega
    have notFar : ¬(0 + ((digits value.natAbs).length : Int) < -400) := by omega
    simp only [toDouble, beq_iff_eq, nonzero, near, notFar, if_false]
    simp [Double.ofInt, tenTo]

end Decimal

namespace Json

/-- The decimal text of an integer. -/
def decimalText (value : Int) : String :=
  String.ofList (integerText value)

/-- The text of an integer is read as the double nearest to it. -/
theorem numericText?_decimalText {value : Int} (inRange : value.natAbs < 2 ^ 64) :
    numericText? (decimalText value) = some (Double.ofInt value) := by
  -- The text is a numeral, so trimming leaves it as it is.
  have spelled : Decimal.Spelled (integerText value) :=
    Decimal.read_isSome_iff.mp (by rw [Decimal.read_integerText]; rfl)
  rw [numericText?_eq, decimalText, String.toList_ofList, spelled.trim_eq,
    Decimal.read_integerText, Option.map_some, Decimal.toDouble_integer inRange]

/-- Two integers as they are given, of which at least one is given as its decimal text. -/
inductive TextPair (first second : Int) : Json → Json → Prop
  /-- Both are given as texts. -/
  | texts : TextPair first second (string (decimalText first)) (string (decimalText second))
  /-- The second is given as a number. -/
  | textNumber (inRange : -9223372036854775808 ≤ second ∧ second < 18446744073709551616) :
      TextPair first second (string (decimalText first)) (number (.integer second inRange))
  /-- The first is given as a number. -/
  | numberText (inRange : -9223372036854775808 ≤ first ∧ first < 18446744073709551616) :
      TextPair first second (number (.integer first inRange)) (string (decimalText second))

variable {first second : Int} {left right : Json}

/-- Integers of which one is a text are in the order of the doubles nearest to them. -/
theorem TextPair.looseCompare_eq (pair : TextPair first second left right)
    (firstRange : first.natAbs < 2 ^ 64) (secondRange : second.natAbs < 2 ^ 64) :
    left.looseCompare right = some (compare (Double.rounded first) (Double.rounded second)) := by
  rw [← Double.order_ofInt firstRange secondRange]
  -- In all three cases it is doubles that are compared.
  cases pair with
  | texts =>
    simp only [looseCompare, numericText?_decimalText firstRange, numericText?_decimalText secondRange]
  | textNumber inRange =>
    simp only [looseCompare, numericText?_decimalText firstRange, Option.map_some, Number.toDouble]
  | numberText inRange =>
    simp only [looseCompare, numericText?_decimalText secondRange, Option.map_some, Number.toDouble]

/-- Integers and texts can always be compared. -/
theorem TextPair.comparable (pair : TextPair first second left right) : Comparable left right := by
  cases pair <;> exact .quantities rfl rfl

/-- Integers of which one is a text are equal if they are rounded to the same one. -/
theorem TextPair.looseEq_iff (pair : TextPair first second left right)
    (firstRange : first.natAbs < 2 ^ 64) (secondRange : second.natAbs < 2 ^ 64) :
    left.looseEq right = true ↔ Double.rounded first = Double.rounded second := by
  rw [looseEq_iff_looseCompare pair.comparable, pair.looseCompare_eq firstRange secondRange,
    Option.some.injEq]
  exact Std.LawfulEqCmp.compare_eq_iff_eq

/-- Two integers as they are given are equal and in order exactly as the integers are. -/
def ComparedExactly (first second : Int) (left right : Json) : Prop :=
  (left.looseEq right = true ↔ first = second) ∧
    left.looseCompare right = some (compare first second)

/--
Two integers of sixty-four bits, of which at least one is given as a text, are compared by their
exact values precisely if they are the same or are still different once rounded to fifty-three
binary digits. That is so if one of them has no more digits than that, or if they are far apart.
Otherwise they are taken for equal, but never for being in the opposite order.
-/
theorem textPair_comparedExactly_iff (pair : TextPair first second left right)
    (firstRange : -2 ^ 63 ≤ first ∧ first < 2 ^ 64) (secondRange : -2 ^ 63 ≤ second ∧ second < 2 ^ 64) :
    (ComparedExactly first second left right ↔
      first = second ∨ Double.rounded first ≠ Double.rounded second) ∧
    (first.natAbs < 2 ^ 53 ∨ second.natAbs < 2 ^ 53 ∨ 2 ^ 11 < (first - second).natAbs →
      ComparedExactly first second left right) ∧
    (left.looseCompare right = some (compare first second) ∨
      left.looseCompare right = some .eq ∧ left.looseEq right = true) := by
  have firstSize : first.natAbs < 2 ^ 64 := by omega
  have secondSize : second.natAbs < 2 ^ 64 := by omega
  -- Neither comparison sees more of the two than what they are rounded to.
  have equal := pair.looseEq_iff firstSize secondSize
  have order := pair.looseCompare_eq firstSize secondSize
  have exact_iff : ComparedExactly first second left right ↔
      first = second ∨ Double.rounded first ≠ Double.rounded second := by
    rw [ComparedExactly, equal, order, Option.some.injEq]
    constructor
    · rintro ⟨same, _⟩
      -- Equality alone decides: different integers that are merged are taken for equal.
      by_cases merged : Double.rounded first = Double.rounded second
      · exact .inl (same.mp merged)
      · exact .inr merged
    · intro apart
      refine ⟨⟨fun merged => apart.resolve_right (not_not_intro merged), congrArg _⟩, ?_⟩
      exact Double.compare_rounded apart
  refine ⟨exact_iff, fun apart => exact_iff.mpr ?_, ?_⟩
  · by_cases same : first = second
    · exact .inl same
    · exact .inr (Double.rounded_ne firstSize secondSize same apart)
  · -- Merged integers are tied, and all others are compared exactly.
    by_cases merged : Double.rounded first = Double.rounded second
    · have tied := (looseEq_iff_looseCompare pair.comparable).mp (equal.mpr merged)
      exact .inr ⟨tied, equal.mpr merged⟩
    · exact .inl (exact_iff.mpr (.inr merged)).2

/-- An even integer of fifty-four digits is kept apart from the one two below it. -/
theorem textPair_comparedExactly_even :
    TextPair 9007199254740994 9007199254740992 (string "9007199254740994")
        (number (.integer 9007199254740992 (by decide))) ∧
      (-2 ^ 63 ≤ (9007199254740994 : Int) ∧ (9007199254740994 : Int) < 2 ^ 64) ∧
      (-2 ^ 63 ≤ (9007199254740992 : Int) ∧ (9007199254740992 : Int) < 2 ^ 64) ∧
      ComparedExactly 9007199254740994 9007199254740992 (string "9007199254740994")
        (number (.integer 9007199254740992 (by decide))) := by
  have text : decimalText 9007199254740994 = "9007199254740994" := by cbv
  have pair : TextPair 9007199254740994 9007199254740992 (string "9007199254740994")
      (number (.integer 9007199254740992 (by decide))) := text ▸ .textNumber (by decide)
  have apart : Double.rounded 9007199254740994 ≠ Double.rounded 9007199254740992 := by
    decide +kernel
  obtain ⟨exactly, _⟩ := textPair_comparedExactly_iff pair (by decide) (by decide)
  exact ⟨pair, by decide, by decide, exactly.mpr (.inr apart)⟩

/-- The odd integer between those two is taken for the lower one. -/
theorem textPair_confused :
    TextPair 9007199254740993 9007199254740992 (string "9007199254740993")
        (number (.integer 9007199254740992 (by decide))) ∧
      ¬ComparedExactly 9007199254740993 9007199254740992 (string "9007199254740993")
        (number (.integer 9007199254740992 (by decide))) := by
  have text : decimalText 9007199254740993 = "9007199254740993" := by cbv
  have equal : (string "9007199254740993").looseEq
      (number (.integer 9007199254740992 (by decide))) = true := by decide +kernel
  refine ⟨text ▸ .textNumber (by decide), fun exactly => ?_⟩
  exact absurd (exactly.1.mp equal) (by decide)

end Json

end RecordFilter
