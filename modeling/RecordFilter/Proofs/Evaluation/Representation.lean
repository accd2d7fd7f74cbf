import RecordFilter.Proofs.Comparison.WholeDoubles
import RecordFilter.Proofs.Evaluation.Rearrangement

/-! Whether a whole number is an integer or a double shows only where equality
is strict, however deep it lies. -/

namespace RecordFilter

namespace Json

/-- Documents of which one becomes the other when integers turn into the
doubles that denote them, or back. -/
inductive Represented : Json → Json → Prop
  /-- Nothing changes. -/
  | same (value : Json) : Represented value value
  /-- One change after another. -/
  | further {first second third : Json} (one : Represented first second)
      (more : Represented second third) : Represented first third
  /-- An integer turns into its double. -/
  | asDouble {integer double : Number} (twins : integer.Twins double) :
      Represented (number integer) (number double)
  /-- A double turns into its integer. -/
  | asInteger {integer double : Number} (twins : integer.Twins double) :
      Represented (number double) (number integer)
  /-- An item of an array changes inside. -/
  | inItem (front back : List Json) {item other : Json} (inner : Represented item other) :
      Represented (array (front ++ item :: back)) (array (front ++ other :: back))
  /-- The value of a member changes inside. -/
  | inMember (front back : List (String × Json)) (key : String) {value other : Json}
      (inner : Represented value other) :
      Represented (object (front ++ (key, value) :: back)) (object (front ++ (key, other) :: back))

section Agreement

variable {rule : Json → Json → Bool}

/-- Items agree with items of which one changes as before, if the
new one is agreed with as before. -/
theorem agreeItems_replaced_right (front back : List Json) {item new : Json}
    (same : ∀ other, agree rule other item = agree rule other new) (others : List Json) :
    agreeItems rule others (front ++ item :: back) = agreeItems rule others (front ++ new :: back) := by
  -- The item that changes is reached by going through those in front of it on both sides.
  induction front generalizing others with
  | nil =>
    cases others with
    | nil => rfl
    | cons other rest => simp only [List.nil_append, agreeItems, same]
  | cons first more ih =>
    cases others with
    | nil => rfl
    | cons other rest => simp only [List.cons_append, agreeItems, ih]

/-- Members agree with members of which one changes as before, if the
new value is agreed with as before. -/
theorem agreeMembers_replaced_right (front back : List (String × Json)) (key : String)
    {value new : Json} (same : ∀ other, agree rule other value = agree rule other new)
    (others : List (String × Json)) :
    agreeMembers rule others (front ++ (key, value) :: back) =
      agreeMembers rule others (front ++ (key, new) :: back) := by
  induction others with
  | nil => rfl
  | cons other rest ih =>
    obtain ⟨name, wanted⟩ := other
    -- Under each name the same value is found as before, or the new one in place of the old.
    rcases find?_replaced front back key value new name with alike | ⟨found, changed⟩
    · simp only [agreeMembers, alike, ih]
    · simp only [agreeMembers, found, changed, same, ih]

/-- An array of which one item changes is agreed with as before, if the new item is. -/
theorem agree_itemReplaced_right (counts : CountsOnly rule)
    (swap : ∀ first second, rule first second = rule second first) (front back : List Json)
    {item new : Json} (same : ∀ other, agree rule other item = agree rule other new) (other : Json) :
    agree rule other (array (front ++ item :: back)) = agree rule other (array (front ++ new :: back)) := by
  cases other with
  | array others => exact agreeItems_replaced_right front back same others
  | _ =>
    -- Anything but an array is left to the rule, which does not depend on the side.
    exact (swap _ _).trans ((counts.array _ (by simp)).trans (swap _ _))

/-- An object of which one member changes is agreed with as before, if the new value is. -/
theorem agree_memberReplaced_right (counts : CountsOnly rule)
    (swap : ∀ first second, rule first second = rule second first)
    (front back : List (String × Json)) (key : String) {value new : Json}
    (same : ∀ other, agree rule other value = agree rule other new) (other : Json) :
    agree rule other (object (front ++ (key, value) :: back)) =
      agree rule other (object (front ++ (key, new) :: back)) := by
  cases other with
  | object others =>
    simp only [agree, agreeMembers_replaced_right front back key same, List.length_append,
      List.length_cons]
  | _ => exact (swap _ _).trans ((counts.object _ (by simp)).trans (swap _ _))

end Agreement

/-- Two documents that no operator tells apart but those of strict equality. -/
structure Indistinct (left right : Json) : Prop where
  /-- They are loosely equal to the same documents. -/
  looseEq_left : ∀ other : Json, left.looseEq other = right.looseEq other
  /-- The same documents are loosely equal to them. -/
  looseEq_right : ∀ other : Json, other.looseEq left = other.looseEq right
  /-- They are in the same order with all documents. -/
  looseCompare : ∀ other : Json, left.looseCompare other = right.looseCompare other
  /-- They have the same text form, if any. -/
  fieldText : left.fieldText? = right.fieldText?
  /-- Both are null, or neither is. -/
  null : left = null ↔ right = null
  /-- As operands they answer alike whether something is among their items. -/
  membership : ∀ (field : Json) (answer : Bool → Bool),
    Operator.ofItems (fun items => answer (items.any field.looseEq)) left =
      Operator.ofItems (fun items => answer (items.any field.looseEq)) right

namespace Indistinct

variable {left right third item new : Json}

/-- Every document is indistinct from itself. -/
theorem refl (value : Json) : Indistinct value value :=
  ⟨fun _ => rfl, fun _ => rfl, fun _ => rfl, rfl, .rfl, fun _ _ => rfl⟩

/-- Documents that are indistinct one after another are so altogether. -/
theorem trans (first : Indistinct left right) (second : Indistinct right third) :
    Indistinct left third where
  looseEq_left other := (first.looseEq_left other).trans (second.looseEq_left other)
  looseEq_right other := (first.looseEq_right other).trans (second.looseEq_right other)
  looseCompare other := (first.looseCompare other).trans (second.looseCompare other)
  fieldText := first.fieldText.trans second.fieldText
  null := first.null.trans second.null
  membership field answer := (first.membership field answer).trans (second.membership field answer)

/-- Numbers that are taken for each other are not told apart as documents. -/
theorem ofNumbers {number other : Number} (alike : number.Alike other) :
    Indistinct (Json.number number) (Json.number other) := by
  have scalar : ∀ value, looseScalar (Json.number number) value = looseScalar (Json.number other) value := by
    intro value
    cases value <;>
      simp only [looseScalar, truthy, isVoid, numberEqText, alike.looseEq, alike.toDouble, alike.fieldText]
  -- The six questions that operators ask are answered one by one.
  refine ⟨fun value => ?_, fun value => ?_, fun value => ?_, ?_, ?_, fun _ _ => rfl⟩
  · exact scalar value
  · rw [looseEq, (agree_leaf (.number number)).2, (agree_leaf (.number other)).2,
      looseScalar_comm, scalar, looseScalar_comm]
  · cases value <;> simp only [Json.looseCompare, alike.looseCompare, alike.toDouble]
  · exact congrArg some alike.fieldText
  · simp

/-- An array is not told apart when one of its items is not. -/
theorem inItem (front back : List Json) (inner : Indistinct item new) :
    Indistinct (array (front ++ item :: back)) (array (front ++ new :: back)) where
  looseEq_left := agree_itemReplaced countsOnly_looseScalar front back inner.looseEq_left
  looseEq_right :=
    agree_itemReplaced_right countsOnly_looseScalar looseScalar_comm front back inner.looseEq_right
  looseCompare other := by cases other <;> rfl
  fieldText := rfl
  null := by simp
  membership field answer := by
    simp only [Operator.ofItems, List.any_append, List.any_cons, inner.looseEq_right]

/-- An object is not told apart when the value of one of its members is not. -/
theorem inMember (front back : List (String × Json)) (key : String) (inner : Indistinct item new) :
    Indistinct (object (front ++ (key, item) :: back)) (object (front ++ (key, new) :: back)) where
  looseEq_left := agree_memberReplaced countsOnly_looseScalar front back key inner.looseEq_left
  looseEq_right :=
    agree_memberReplaced_right countsOnly_looseScalar looseScalar_comm front back key
      inner.looseEq_right
  looseCompare other := by cases other <;> rfl
  fieldText := rfl
  null := by simp
  membership _ _ := rfl

end Indistinct

/-- Documents that differ in the representation of whole numbers alone are not told apart. -/
theorem Represented.indistinct {left right : Json} (represented : Represented left right) :
    Indistinct left right := by
  -- The induction is on how the one document becomes the other.
  induction represented with
  | same value => exact .refl value
  | further _ _ first second => exact first.trans second
  | asDouble twins => exact .ofNumbers twins.alike
  | asInteger twins => exact .ofNumbers twins.alike.symm
  | inItem front back _ inner => exact inner.inItem front back
  | inMember front back key _ inner => exact inner.inMember front back key

end Json

namespace Operator

open Json

section Engine

variable [Pattern.Engine] {operator : Operator} {field other : Option Json}
  {operand otherOperand value new : Json}

/-- An operator without strict equality says the same of a field that is not told apart. -/
theorem test_indistinct_field (loose : operator ∉ [exactEqual, notExactEqual, notNull])
    (indistinct : Indistinct value new) (operand : Json) :
    operator.test (some value) operand = operator.test (some new) operand := by
  have equal := indistinct.looseEq_left
  have inItems : value.looseEq = new.looseEq := funext equal
  have order := indistinct.looseCompare operand
  have text := indistinct.fieldText
  -- The null test looks at null first, and nothing else is taken for null there.
  by_cases isNull : value = .null
  · rw [isNull, indistinct.null.mp isNull]
  · have notNull_ : new ≠ .null := fun same => isNull (indistinct.null.mpr same)
    cases operator with
    | exactEqual | notExactEqual | notNull => simp at loose
    | _ =>
      simp only [test, Option.getD_some, equal, inItems, ordered, order, relatesTexts, text,
        matchesField]

/-- An operator without strict equality says the same of an operand that is not told apart. -/
theorem test_indistinct_operand (loose : operator ∉ [exactEqual, notExactEqual, notNull])
    (indistinct : Indistinct operand otherOperand) (field : Option Json) :
    operator.test field operand = operator.test field otherOperand := by
  have equal := indistinct.looseEq_right
  have text := indistinct.fieldText
  -- The operand is on the right of the comparison, so it is turned round first.
  have order : (field.getD .null).looseCompare operand = (field.getD .null).looseCompare otherOperand := by
    rw [looseCompare_swap operand, looseCompare_swap otherOperand, indistinct.looseCompare]
  -- Strict equality is excluded, and membership is asked of the items.
  cases operator with
  | exactEqual | notExactEqual | notNull => simp at loose
  | isIn => exact indistinct.membership (field.getD .null) id
  | notIn => exact indistinct.membership (field.getD .null) (!·)
  -- The null test answers by the field alone where that is absent or null.
  | null =>
    cases field with
    | none => rfl
    | some value => cases value <;> first | rfl | exact equal _
  | _ => simp only [test, equal, ordered, order, relatesTexts, regex?, pattern?, text]

/--
Whether a whole number of no more than fifteen digits is an integer or a double makes no difference
to an operator, except to the three that ask for strict equality: any such numbers may turn from one
into the other inside the field, which may be absent, and inside the operand, at any depth.
-/
theorem test_represented (operator : Operator)
    (loose : operator ∉ [exactEqual, notExactEqual, notNull])
    (fields : Option.Rel Represented field other) (operands : Represented operand otherOperand) :
    operator.test field operand = operator.test other otherOperand := by
  rw [test_indistinct_operand loose operands.indistinct field]
  -- An absent field has nothing that could change.
  cases fields with
  | none => rfl
  | some represented => exact test_indistinct_field loose represented.indistinct otherOperand

end Engine

/-- A record may hold the integer three and the operand the double, or the other way round. -/
theorem test_represented_nested :
    isIn.test (some (object [("size", number (.integer 3 (by decide)))]))
        (array [object [("size", number (.double (.ofInt 3) (by decide +kernel)))]]) =
      isIn.test (some (object [("size", number (.double (.ofInt 3) (by decide +kernel)))]))
        (array [object [("size", number (.integer 3 (by decide)))]]) := by
  -- Three is far below fifteen digits, so both forms denote it.
  have twins := Number.twins_ofInt 3 (by decide) (by decide) (by decide +kernel)
  exact test_represented isIn (by decide) (.some (.inMember [] [] "size" (.asDouble twins)))
    (.inItem [] [] (.inMember [] [] "size" (.asInteger twins)))

end Operator

end RecordFilter
