import Mathlib.Data.String.Basic
import RecordFilter.Operator
import RecordFilter.Pattern.Standard
import RecordFilter.Proofs.Comparison.NumericTexts

/-! Loose order turns around with its sides, and calls equal what loose equality does. -/

namespace RecordFilter

namespace Double

variable {left right : Double}

/-- The order of two doubles is turned around with them. -/
theorem order_swap (left right : Double) : right.order left = (left.order right).swap :=
  Std.OrientedOrd.eq_swap

/-- Doubles that neither is below the other have the same value. -/
theorem order_eq_iff : left.order right = .eq ↔ left.sameValue right = true := by
  rw [order, sameValue, beq_iff_eq]
  exact Std.LawfulEqCmp.compare_eq_iff_eq

end Double

namespace Number

variable {left right : Number}

/-- The order of two numbers is turned around with them, whichever way they are compared. -/
theorem looseCompare_swap (left right : Number) :
    right.looseCompare left = (left.looseCompare right).swap := by
  unfold looseCompare
  -- Both ways ask for two signed integers first, then for two unsigned ones.
  cases left.asSigned? <;> cases right.asSigned? <;> cases left.asUnsigned? <;>
    cases right.asUnsigned? <;> exact Std.OrientedOrd.eq_swap

/-- Equality and order compare two numbers in the same way. -/
theorem looseCompare_eq_iff : left.looseCompare right = .eq ↔ left.looseEq right = true := by
  unfold looseCompare looseEq
  -- Whichever comparison is chosen, order and equality choose the same.
  cases left.asSigned? <;> cases right.asSigned? <;> cases left.asUnsigned? <;>
    cases right.asUnsigned? <;>
      simp only [Double.order_eq_iff, beq_iff_eq, Std.LawfulEqCmp.compare_eq_iff_eq]

end Number

namespace Json

/-- Whether a value is a number or a text, which can all be compared with each other. -/
def isQuantity : Json → Bool
  | number _ => true
  | string _ => true
  | _ => false

/-- Two values of kinds between which there can be an order. -/
inductive Comparable : Json → Json → Prop
  /-- Two nulls. -/
  | nulls : Comparable null null
  /-- Two truth values. -/
  | bools (left right : Bool) : Comparable (bool left) (bool right)
  /-- Two values that are each a number or a text. -/
  | quantities {left right : Json} (first : left.isQuantity = true)
      (second : right.isQuantity = true) : Comparable left right

/-- The order of two values is turned around with them, and missing either way if it is at all. -/
theorem looseCompare_swap (left right : Json) :
    right.looseCompare left = (left.looseCompare right).map Ordering.swap := by
  cases left with
  | null => cases right <;> rfl
  | array items => cases right <;> rfl
  | object members => cases right <;> rfl
  | bool value =>
    cases right with
    | bool other => cases value <;> cases other <;> rfl
    | _ => rfl
  | number value =>
    cases right with
    | number other => exact congrArg some (Number.looseCompare_swap value other)
    | string text =>
      simp only [looseCompare, Option.map_map]
      exact congrArg (Option.map · _) (funext fun double => Double.order_swap _ double)
    | _ => rfl
  | string text =>
    cases right with
    | number other =>
      simp only [looseCompare, Option.map_map]
      exact congrArg (Option.map · _) (funext fun double => Double.order_swap double _)
    | string other =>
      -- Two texts are compared by number only if both are numerals.
      simp only [looseCompare]
      cases numericText? text <;> cases numericText? other <;>
        exact congrArg some Std.OrientedOrd.eq_swap
    | _ => rfl

/-- A number equals a text only as a number, since the text of a number is always a numeral. -/
theorem numberEqText_iff {value : Number} {text : String} :
    numberEqText value text = true ↔
      ((numericText? text).map fun double => value.toDouble.order double) = some .eq := by
  unfold numberEqText
  cases found : numericText? text with
  | some double => simp [Double.order_eq_iff]
  | none =>
    -- The two would have the same characters, but those of the number are a numeral.
    obtain ⟨double, numeric⟩ := value.exists_numericText?
    have differs : value.fieldText ≠ text.toList := by
      intro same
      rw [same, String.ofList_toList, found] at numeric
      contradiction
    simp [differs]

/-- Values of comparable kinds are loosely equal exactly where loose order finds them equal. -/
theorem looseEq_iff_looseCompare {left right : Json} (comparable : Comparable left right) :
    left.looseEq right = true ↔ left.looseCompare right = some .eq := by
  -- Null and truth values are few, and quantities are numbers or texts.
  cases comparable with
  | nulls => exact ⟨fun _ => rfl, fun _ => rfl⟩
  | bools left right => cases left <;> cases right <;> decide
  | quantities first second =>
    cases left with
    | number value =>
      cases right with
      | number other =>
        simp only [looseEq, agree, looseScalar, looseCompare, Option.some.injEq,
          Number.looseCompare_eq_iff]
      | string text => simp only [looseEq, agree, looseScalar, looseCompare, numberEqText_iff]
      | _ => contradiction
    | string text =>
      cases right with
      | number other =>
        simp only [looseEq, agree, looseScalar, looseCompare, numberEqText_iff]
        -- The text stands on the other side in the order of the two.
        cases numericText? text with
        | none => simp
        | some double => simp [Double.order_swap other.toDouble double]
      | string other =>
        simp only [looseEq, agree, looseScalar, looseCompare, textEqText]
        cases numericText? text <;> cases numericText? other <;> simp [Double.order_eq_iff]
      | _ => contradiction
    | _ => contradiction

/-- Two numbers, like two texts, are always in some order. -/
theorem looseCompare_isSome_of_number (left right : Number) :
    ((number left).looseCompare (number right)).isSome = true := rfl

/-- Two texts are always in some order, by number or by character. -/
theorem looseCompare_isSome_of_string (left right : String) :
    ((string left).looseCompare (string right)).isSome = true := by
  simp only [looseCompare]
  -- Unless both are numerals their characters are compared.
  cases numericText? left <;> cases numericText? right <;> rfl

end Json

namespace Operator

variable [Pattern.Engine] {field : Option Json} {operand : Json}

/-- At least means above or loosely equal, between values that can be compared. -/
theorem greaterEqual_iff (comparable : Json.Comparable (field.getD .null) operand) :
    greaterEqual.test field operand = true ↔
      greater.test field operand = true ∨ equal.test field operand = true := by
  simp only [test, ordered, Json.looseEq_iff_looseCompare comparable]
  -- Each of the three orders decides both sides.
  cases (field.getD .null).looseCompare operand with
  | none => simp
  | some order => cases order <;> simp

/-- At least and at most together mean loosely equal, between values that can be compared. -/
theorem greaterEqual_and_lessEqual_iff
    (comparable : Json.Comparable (field.getD .null) operand) :
    greaterEqual.test field operand = true ∧ lessEqual.test field operand = true ↔
      equal.test field operand = true := by
  simp only [test, ordered, Json.looseEq_iff_looseCompare comparable]
  cases (field.getD .null).looseCompare operand with
  | none => simp
  | some order => cases order <;> simp

end Operator

namespace Json

/-- Loose order is turned around with its sides, is total on numbers and on texts, and agrees with
loose equality, as do the operators made of the two, wherever an order can be expected. -/
theorem looseOrder_agrees [Pattern.Engine] :
    (∀ left right : Json, right.looseCompare left = (left.looseCompare right).map Ordering.swap) ∧
    (∀ left right : Number, ((number left).looseCompare (number right)).isSome = true) ∧
    (∀ left right : String, ((string left).looseCompare (string right)).isSome = true) ∧
    (∀ left right : Json, Comparable left right →
      (left.looseEq right = true ↔ left.looseCompare right = some .eq)) ∧
    (∀ (field : Option Json) (operand : Json), Comparable (field.getD .null) operand →
      (Operator.greaterEqual.test field operand = true ↔
        Operator.greater.test field operand = true ∨ Operator.equal.test field operand = true) ∧
      (Operator.greaterEqual.test field operand = true ∧
          Operator.lessEqual.test field operand = true ↔
        Operator.equal.test field operand = true)) :=
  ⟨looseCompare_swap, looseCompare_isSome_of_number, looseCompare_isSome_of_string,
    fun _ _ => looseEq_iff_looseCompare,
    fun _ _ comparable => ⟨Operator.greaterEqual_iff comparable,
      Operator.greaterEqual_and_lessEqual_iff comparable⟩⟩

/-- Ten is compared by number with another numeral of the same value. -/
theorem looseOrder_agrees_numeral :
    Comparable (number (.integer 10 (by decide))) (string "1e1") ∧
    (number (.integer 10 (by decide))).looseEq (string "1e1") = true ∧
    (number (.integer 10 (by decide))).looseCompare (string "1e1") = some .eq ∧
    Operator.greaterEqual.test (some (number (.integer 10 (by decide)))) (string "1e1") = true := by
  have comparable : Comparable (number (.integer 10 (by decide))) (string "1e1") :=
    .quantities rfl rfl
  obtain ⟨-, -, -, agrees, tests⟩ := looseOrder_agrees
  have equal : (number (.integer 10 (by decide))).looseEq (string "1e1") = true := by
    decide +kernel
  exact ⟨comparable, equal, (agrees _ _ comparable).mp equal,
    (tests (some _) _ comparable).1.mpr (.inr equal)⟩

end Json

end RecordFilter
