import RecordFilter.Proofs.Comparison.Order
import RecordFilter.Proofs.Json.Agreement

/-! Loose equality holds of every value and itself, either way round,
and wherever strict equality does. -/

namespace RecordFilter

namespace Double

/-- A double has the same value as itself. -/
theorem sameValue_self (value : Double) : value.sameValue value = true :=
  beq_self_eq_true value.key

end Double

namespace Number

/-- A number is equal to itself, however it is compared. -/
theorem looseEq_self (number : Number) : number.looseEq number = true := by
  unfold looseEq
  -- Whichever of the three comparisons is made, it is made of a value with itself.
  cases number.asSigned? <;> cases number.asUnsigned? <;>
    simp only [beq_self_eq_true, Double.sameValue_self]

/-- Two numbers are equal either way round, since neither is below the other either way round. -/
theorem looseEq_comm (left right : Number) : left.looseEq right = right.looseEq left := by
  rw [Bool.eq_iff_iff, ← looseCompare_eq_iff, ← looseCompare_eq_iff, looseCompare_swap left right]
  exact Ordering.swap_eq_eq.symm

/-- Numbers of the same representation and value are numerically equal. -/
theorem looseEq_of_same {left right : Number} (same : left.same right = true) :
    left.looseEq right = true := by
  -- An integer and a double are never the same.
  cases left with
  | integer value inRange =>
    cases right with
    | integer other otherInRange =>
      obtain rfl : value = other := beq_iff_eq.mp same
      exact looseEq_self _
    | double => contradiction
  | double value finite =>
    cases right with
    | integer => contradiction
    -- Doubles are no integers of either kind, so they are compared as they are.
    | double other otherFinite => exact same

end Number

namespace Json

/-- A text equals itself, whether it is a numeral or not. -/
theorem textEqText_self (text : String) : textEqText text text = true := by
  unfold textEqText
  cases numericText? text <;> simp [Double.sameValue_self]

/-- Two texts are equal either way round. -/
theorem textEqText_comm (left right : String) : textEqText left right = textEqText right left := by
  unfold textEqText
  -- Two numerals are compared as numbers, and any other texts as texts.
  cases numericText? left <;> cases numericText? right <;> exact BEq.comm

/-- A leaf equals itself loosely. -/
theorem looseScalar_self {leaf : Json} (isLeaf : IsLeaf leaf) : looseScalar leaf leaf = true := by
  cases isLeaf with
  | null => rfl
  | bool value => cases value <;> rfl
  | number value => exact value.looseEq_self
  | string text => exact textEqText_self text

/-- Coercion does not depend on which side a value stands on. -/
theorem looseScalar_comm (left right : Json) : looseScalar left right = looseScalar right left := by
  -- Only values of one kind are compared by a rule of their own;
  -- all others are listed both ways round.
  cases left with
  | bool value =>
    cases right with
    | bool other => exact BEq.comm
    | _ => rfl
  | number value =>
    cases right with
    | number other => exact value.looseEq_comm other
    | _ => rfl
  | string text =>
    cases right with
    | string other => exact textEqText_comm text other
    | _ => rfl
  | _ => cases right <;> rfl

/-- Leaves that are strictly equal are loosely equal. -/
theorem looseScalar_of_sameScalar (left right : Json) (same : sameScalar left right = true) :
    looseScalar left right = true := by
  -- Leaves of two kinds are not strictly equal.
  cases left <;> cases right <;> try contradiction
  case null.null => rfl
  case bool.bool value other =>
    obtain rfl : value = other := beq_iff_eq.mp same
    exact looseScalar_self (.bool value)
  case number.number => exact Number.looseEq_of_same same
  case string.string text other =>
    obtain rfl : text = other := beq_iff_eq.mp same
    exact textEqText_self text

/-- A value without repeated keys equals itself loosely. -/
theorem looseEq_self {value : Json} (unique : value.KeysUnique) : value.looseEq value = true :=
  agree_self unique fun _ isLeaf => looseScalar_self isLeaf

/-- Values without repeated keys are loosely equal either way round. -/
theorem looseEq_comm {left right : Json} (uniqueLeft : left.KeysUnique)
    (uniqueRight : right.KeysUnique) : left.looseEq right = right.looseEq left := by
  rw [Bool.eq_iff_iff]
  exact ⟨agree_swap looseScalar_comm uniqueLeft uniqueRight,
    agree_swap looseScalar_comm uniqueRight uniqueLeft⟩

/-- Values that are strictly equal are loosely equal. -/
theorem looseEq_of_strictEq {left right : Json} (strict : left.strictEq right = true) :
    left.looseEq right = true :=
  agree_of_imp looseScalar_of_sameScalar strict

/--
Loose equality holds of every value and itself, holds either way round, and holds wherever strict
equality does, at every depth and in whatever order members stand. So a field that is strictly equal
to an operand is loosely equal to it, one that is not loosely equal is not strictly equal, and the
items of an array are always in it.
-/
theorem looseEq_is_tolerance [Pattern.Engine] :
    (∀ value : Json, value.KeysUnique → value.looseEq value = true) ∧
    (∀ left right : Json, left.KeysUnique → right.KeysUnique →
      left.looseEq right = right.looseEq left) ∧
    (∀ left right : Json, left.strictEq right = true → left.looseEq right = true) ∧
    (∀ field operand, Operator.exactEqual.test field operand = true →
      Operator.equal.test field operand = true) ∧
    (∀ field operand, Operator.notEqual.test field operand = true →
      Operator.notExactEqual.test field operand = true) ∧
    ∀ items, (array items).KeysUnique → ∀ item ∈ items,
      Operator.isIn.test (some item) (array items) = true := by
  refine ⟨fun _ => looseEq_self, fun _ _ => looseEq_comm, fun _ _ => looseEq_of_strictEq,
    fun field operand => looseEq_of_strictEq, ?_, ?_⟩
  · intro field operand differs
    simp only [Operator.test, Bool.not_eq_true'] at differs ⊢
    -- Were the two strictly equal, they would be loosely equal as well.
    cases strict : (field.getD .null).strictEq operand with
    | false => rfl
    | true => exact absurd (looseEq_of_strictEq strict) (by simp [differs])
  · intro items unique item inside
    have self := looseEq_self (itemsEverywhere_iff.mp unique.2 item inside)
    exact List.any_eq_true.mpr ⟨item, inside, self⟩

/-- An object that holds an object and an array, with values that are compared by coercion. -/
def nestedRecord : Json :=
  object [("id", string " 7"), ("tags", array [null, object [("x", bool true), ("y", null)]])]

/-- The same object with the members of both objects in another order. -/
def reorderedRecord : Json :=
  object [("tags", array [null, object [("y", null), ("x", bool true)]]), ("id", string " 7")]

/-- An object that is loosely equal to it by a number, an empty text, a text and a zero. -/
def coercedRecord : Json :=
  object [("tags", array [string "", object [("y", number (.integer 0 (by decide))), ("x", string "no")]]),
    ("id", number (.integer 7 (by decide)))]

/-- The record equals itself and its reordering, as an operand and as an item, and the coerced one
either way round. -/
theorem looseEq_is_tolerance_nested :
    nestedRecord.KeysUnique ∧ coercedRecord.KeysUnique ∧
      nestedRecord.strictEq reorderedRecord = true ∧
      Operator.notEqual.test (some nestedRecord) (array [nestedRecord]) = true ∧
      nestedRecord.looseEq nestedRecord = true ∧
      nestedRecord.looseEq coercedRecord = coercedRecord.looseEq nestedRecord ∧
      nestedRecord.looseEq reorderedRecord = true ∧
      Operator.equal.test (some nestedRecord) reorderedRecord = true ∧
      Operator.notExactEqual.test (some nestedRecord) (array [nestedRecord]) = true ∧
      Operator.isIn.test (some nestedRecord) (array [nestedRecord]) = true := by
  obtain ⟨self, swapped, strict, strictTest, looseTest, items⟩ := looseEq_is_tolerance
  have unique : nestedRecord.KeysUnique := by
    simp [nestedRecord, KeysUnique, Everywhere, MembersEverywhere, ItemsEverywhere, KeysDiffer]
  have uniqueCoerced : coercedRecord.KeysUnique := by
    simp [coercedRecord, KeysUnique, Everywhere, MembersEverywhere, ItemsEverywhere, KeysDiffer]
  have uniqueItems : (array [nestedRecord]).KeysUnique := ⟨trivial, unique, trivial⟩
  have same : nestedRecord.strictEq reorderedRecord = true := by decide
  have differs : Operator.notEqual.test (some nestedRecord) (array [nestedRecord]) = true := rfl
  exact ⟨unique, uniqueCoerced, same, differs, self _ unique,
    swapped _ _ unique uniqueCoerced, strict _ _ same, strictTest _ _ same, looseTest _ _ differs,
    items _ uniqueItems _ List.mem_cons_self⟩

end Json

end RecordFilter
