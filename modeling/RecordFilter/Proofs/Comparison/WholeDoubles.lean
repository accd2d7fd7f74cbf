import RecordFilter.Proofs.Comparison.Integers
import RecordFilter.Proofs.Numeric.Integers

/-! An integer and the double that denotes it are in order with the
same numbers and have the same text. -/

namespace RecordFilter

namespace Number

variable {integer double number other : Number}

/-- An integer of no more than fifteen digits, and the double that denotes it. -/
inductive Twins : Number → Number → Prop
  /-- The sign of the double is that of the integer, so for zero it is no minus. -/
  | intro {value : Int} (inRange : -9223372036854775808 ≤ value ∧ value < 18446744073709551616)
      (small : value.natAbs < 10 ^ 15) {double : Double} (denotes : double.Denotes value)
      (finite : double.IsFinite) : Twins (.integer value inRange) (.double double finite)

/-- Every integer of no more than fifteen digits has its double. -/
theorem twins_ofInt (value : Int) (small : value.natAbs < 10 ^ 15)
    (inRange : -9223372036854775808 ≤ value ∧ value < 18446744073709551616)
    (finite : (Double.ofInt value).IsFinite) :
    Twins (.integer value inRange) (.double (.ofInt value) finite) :=
  .intro inRange small (Double.denotes_ofInt (by omega)) finite

/-- The two are the same double. -/
theorem Twins.toDouble_eq (twins : Twins integer double) : integer.toDouble = double.toDouble := by
  cases twins with
  | intro inRange small denotes finite => exact (denotes.eq_ofInt (by omega)).symm

/-- The two have the same text as fields: the double loses its fraction. -/
theorem Twins.fieldText_eq (twins : Twins integer double) : integer.fieldText = double.fieldText := by
  cases twins with
  | intro inRange small denotes finite =>
    -- Both are written with the digits of the absolute value, behind a minus sign below zero.
    have short : decide (_ < tenTo 15) = true := decide_eq_true small
    simp only [fieldText, text, integerText, denotes.isIntegral, denotes.wholePart_eq, short,
      denotes.negative_eq, Bool.and_self, if_true, decide_eq_true_eq]

/-- A double on the left makes every comparison one of doubles. -/
theorem looseCompare_double_left (value : Double) (finite : value.IsFinite) (other : Number) :
    (Number.double value finite).looseCompare other = value.order other.toDouble := rfl

/-- A double on the right does so as well. -/
theorem looseCompare_double_right (number : Number) (value : Double) (finite : value.IsFinite) :
    number.looseCompare (.double value finite) = number.toDouble.order value := by
  rw [looseCompare_swap, looseCompare_double_left]
  exact (Double.order_swap _ _).symm

/-- The two are in the same order with every number, though integers are compared exactly. -/
theorem Twins.looseCompare_eq (twins : Twins integer double) (other : Number) :
    integer.looseCompare other = double.looseCompare other := by
  -- With a double both are compared as doubles, and with an integer
  -- one of them is compared exactly.
  cases other with
  | double value finite => rw [looseCompare_double_right, looseCompare_double_right, twins.toDouble_eq]
  | integer value range =>
    have same := twins.toDouble_eq
    cases twins with
    | @intro whole inRange small double denotes finite =>
      have exact_ := looseCompare_integer ⟨whole, inRange⟩ ⟨value, range⟩
      -- The small integer is not rounded, and no other is rounded to it.
      have apart : whole = value ∨ Double.rounded whole ≠ Double.rounded value := by
        by_cases equal : whole = value
        · exact .inl equal
        · exact .inr (Double.rounded_ne (by omega) (by omega) equal (.inl (by omega)))
      calc (Number.integer whole inRange).looseCompare (.integer value range)
        _ = compare whole value := exact_
        _ = compare (Double.rounded whole) (Double.rounded value) :=
          (Double.compare_rounded apart).symm
        _ = (Double.ofInt whole).order (Double.ofInt value) :=
          (Double.order_ofInt (by omega) (by omega)).symm
        _ = (Number.double double finite).looseCompare (.integer value range) := by
          rw [looseCompare_double_left]
          exact congrArg (Double.order · _) same

/-- Two numbers that are taken for each other by coercion: as doubles,
as texts, and in order with others. -/
structure Alike (number other : Number) : Prop where
  /-- They are the same double. -/
  toDouble : number.toDouble = other.toDouble
  /-- They have the same text form. -/
  fieldText : number.fieldText = other.fieldText
  /-- They are in the same order with all numbers. -/
  looseCompare : ∀ third, number.looseCompare third = other.looseCompare third

/-- An integer and its double are taken for each other. -/
theorem Twins.alike (twins : Twins integer double) : integer.Alike double :=
  ⟨twins.toDouble_eq, twins.fieldText_eq, twins.looseCompare_eq⟩

/-- Numbers are alike in either order. -/
theorem Alike.symm (alike : number.Alike other) : other.Alike number :=
  ⟨alike.toDouble.symm, alike.fieldText.symm, fun third => (alike.looseCompare third).symm⟩

/-- Numbers that are in the same order with all others are equal to the same ones. -/
theorem Alike.looseEq (alike : number.Alike other) (third : Number) :
    number.looseEq third = other.looseEq third := by
  rw [Bool.eq_iff_iff, ← looseCompare_eq_iff, ← looseCompare_eq_iff, alike.looseCompare]

end Number

end RecordFilter
