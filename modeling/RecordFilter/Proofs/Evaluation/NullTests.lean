import RecordFilter.Proofs.Evaluation.KnownOperators
import RecordFilter.Proofs.Numeric.Integers

/-! The two null tests: one of them holds of every field, and both of fields that are equal to the
operand by coercion alone. -/

namespace RecordFilter

namespace Number

/-- A number that denotes zero: the integer, or a double with either sign. -/
inductive IsZero : Number → Prop
  /-- The integer. -/
  | integer (inRange : -9223372036854775808 ≤ (0 : Int) ∧ (0 : Int) < 18446744073709551616) :
      IsZero (.integer 0 inRange)
  /-- A double, whatever its sign. -/
  | double (negative : Bool) (finite : (Double.zero negative).IsFinite) :
      IsZero (.double (Double.zero negative) finite)

/-- The zeros are the numbers that are zero as doubles. -/
theorem isZero_iff {number : Number} : number.IsZero ↔ number.toDouble.isZero = true := by
  constructor
  · intro zero
    cases zero with
    | integer => exact (Double.isZero_ofInt_iff (by decide)).mpr rfl
    | double => rfl
  · intro zero
    -- An integer is rounded to zero only if it is zero, and a double is zero with either sign.
    cases number with
    | integer value inRange =>
      obtain rfl : value = 0 := (Double.isZero_ofInt_iff (by omega)).mp zero
      exact .integer inRange
    | double value finite =>
      obtain ⟨negative, magnitude, bounded⟩ := value
      obtain rfl : magnitude = 0 := beq_iff_eq.mp zero
      exact .double negative finite

end Number

namespace Json

/-- A value that is there, but counts as nothing: false, a zero, the
empty text, or an empty container. -/
inductive CountsAsNothing : Json → Prop
  /-- The false truth value. -/
  | falsehood : CountsAsNothing (bool false)
  /-- A number that denotes zero. -/
  | zero {value : Number} (zero : value.IsZero) : CountsAsNothing (number value)
  /-- The text without characters. -/
  | noText : CountsAsNothing (string "")
  /-- The array without items. -/
  | noItems : CountsAsNothing (array [])
  /-- The object without members. -/
  | noMembers : CountsAsNothing (object [])

/-- Null is loosely equal to itself and to what counts as nothing. -/
theorem looseEq_null_iff {value : Json} :
    value.looseEq null = true ↔ value = null ∨ value.CountsAsNothing := by
  have leaf : value.looseEq null = looseScalar value null := (agree_leaf .null).2
  -- Null is a leaf, so nothing but the rule for leaves is asked.
  rw [leaf]
  constructor
  · intro equal
    -- Each kind of value is compared with null in a way of its own.
    cases value with
    | null => exact .inl rfl
    | bool value =>
      obtain rfl : value = false := beq_iff_eq.mp equal
      exact .inr .falsehood
    | number value => exact .inr (.zero (Number.isZero_iff.mpr equal))
    | string text =>
      obtain rfl : text = "" := beq_iff_eq.mp equal
      exact .inr .noText
    | array items =>
      obtain rfl := List.isEmpty_iff.mp equal
      exact .inr .noItems
    | object members =>
      obtain rfl := List.isEmpty_iff.mp equal
      exact .inr .noMembers
  · rintro (rfl | nothing)
    · rfl
    · cases nothing with
      | zero isZero => exact Number.isZero_iff.mp isZero
      | _ => rfl

/-- Null is strictly equal to itself alone. -/
theorem strictEq_null_iff {value : Json} : value.strictEq null = true ↔ value = null := by
  cases value <;> simp [strictEq, agree, sameScalar]

end Json

namespace Operator

variable [Pattern.Engine] {field : Option Json} {operand : Json}

/-- A field passes the null test if there is none, if it is null, or if
it is loosely equal to the operand. -/
theorem test_null_iff :
    null.test field operand = true ↔
      ∀ value, field = some value → value ≠ .null → value.looseEq operand = true := by
  -- A missing field and null pass at once, and any other value is compared.
  cases field with
  | none => simp [test]
  | some value => cases value <;> simp [test]

/-- A field passes the other test if it is there, is not null, and is
not strictly equal to the operand. -/
theorem test_notNull_iff :
    notNull.test field operand = true ↔
      ∃ value, field = some value ∧ value ≠ .null ∧ value.strictEq operand = false := by
  -- The test fails of a missing field and of null, and compares any other.
  cases field with
  | none => simp [test]
  | some value => cases value <;> simp [test]

/-- Every field passes one of the two tests, since strict equality
is no coarser than loose equality. -/
theorem test_null_or_notNull (field : Option Json) (operand : Json) :
    null.test field operand = true ∨ notNull.test field operand = true := by
  rw [test_null_iff, test_notNull_iff, or_iff_not_imp_right]
  intro failed value there present
  -- A field that fails the other test is strictly equal to the operand.
  have strict : value.strictEq operand = true := by
    by_contra differs
    exact failed ⟨value, there, present, Bool.eq_false_iff.mpr differs⟩
  exact Json.looseEq_of_strictEq strict

/-- A field passes both tests if it is equal to the operand by coercion alone. -/
theorem test_null_and_notNull_iff :
    null.test field operand = true ∧ notNull.test field operand = true ↔
      ∃ value, field = some value ∧ value ≠ .null ∧ value.looseEq operand = true ∧
        value.strictEq operand = false := by
  rw [test_null_iff, test_notNull_iff]
  constructor
  · rintro ⟨loose, value, there, present, strict⟩
    exact ⟨value, there, present, loose value there present, strict⟩
  · rintro ⟨value, rfl, present, loose, strict⟩
    refine ⟨?_, value, rfl, present, strict⟩
    rintro _ ⟨⟩ _
    exact loose

/-- With the operand null, a field passes both tests if it counts as nothing. -/
theorem test_null_and_notNull_null_iff :
    null.test field .null = true ∧ notNull.test field .null = true ↔
      ∃ value, field = some value ∧ value.CountsAsNothing := by
  rw [test_null_and_notNull_iff]
  refine exists_congr fun value => and_congr_right fun _ => ?_
  -- Strictly equal to null is null alone, so the value is there and something else.
  simp only [ne_eq, Json.looseEq_null_iff, Bool.eq_false_iff, Json.strictEq_null_iff]
  constructor
  · rintro ⟨present, equal, _⟩
    exact equal.resolve_left present
  · intro nothing
    have present : value ≠ .null := by
      rintro rfl
      contradiction
    exact ⟨present, .inr nothing, present⟩

end Operator

namespace ConditionSet

open ConditionBuilder

/--
The two null tests leave no field out. Of every field, present or absent, and every operand at least
one holds, and both hold of a field that is there, is not null, and is equal to the operand loosely
but not strictly. A filter with one of them keeps the records of whose field it holds. So whatever a
collection is filtered by, a record is kept by the filter with the one test or by that with the
other; and with the operand null it is kept by both exactly if its field is false, a zero, the empty
text or an empty container.
-/
theorem nullTests_cover [Pattern.Engine] :
    (∀ field operand, Operator.null.test field operand = true ∨
      Operator.notNull.test field operand = true) ∧
    (∀ field operand, Operator.null.test field operand = true ∧
        Operator.notNull.test field operand = true ↔
      ∃ value, field = some value ∧ value ≠ .null ∧ value.looseEq operand = true ∧
        value.strictEq operand = false) ∧
    (∀ key operand,
      ((new.whereOperator key .null operand).build.Keeps fun record =>
        Operator.null.test (record.child (.field key)) operand) ∧
      ((new.whereOperator key .notNull operand).build.Keeps fun record =>
        Operator.notNull.test (record.child (.field key)) operand) ∧
      ∀ record : Json, Operator.null.test (record.child (.field key)) operand = true ∨
        Operator.notNull.test (record.child (.field key)) operand = true) ∧
    ∀ key,
      ((new.whereNull key).build.Keeps fun record =>
        Operator.null.test (record.child (.field key)) .null) ∧
      ((new.whereNotNull key).build.Keeps fun record =>
        Operator.notNull.test (record.child (.field key)) .null) ∧
      ∀ record : Json, Operator.null.test (record.child (.field key)) .null = true ∧
          Operator.notNull.test (record.child (.field key)) .null = true ↔
        ∃ value, record.child (.field key) = some value ∧ value.CountsAsNothing := by
  refine ⟨Operator.test_null_or_notNull, fun _ _ => Operator.test_null_and_notNull_iff,
    fun key operand => ?_, fun key => ?_⟩
  · exact ⟨keeps_whereOperator key .null operand, keeps_whereOperator key .notNull operand,
      fun record => Operator.test_null_or_notNull _ operand⟩
  · -- The two shorter names build the same filters with the operand null.
    exact ⟨keeps_whereOperator key .null .null, keeps_whereOperator key .notNull .null,
      fun record => Operator.test_null_and_notNull_null_iff⟩

end ConditionSet

end RecordFilter
