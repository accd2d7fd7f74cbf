import RecordFilter.Proofs.Comparison.Equality
import RecordFilter.Proofs.Evaluation.Meaning
import RecordFilter.Proofs.Json.Rearrangement

/-! The order of members shows in no condition: not in the field,
not in the operand, at no depth. -/

namespace RecordFilter

/-- Lists of the same length are both empty or both not. -/
theorem isEmpty_of_length {α : Type} {left right : List α} (length : left.length = right.length) :
    left.isEmpty = right.isEmpty := by
  rw [Bool.eq_iff_iff, List.isEmpty_iff_length_eq_zero, List.isEmpty_iff_length_eq_zero, length]

namespace Json

/-- Strict equality of leaves sees nothing of a container. -/
theorem countsOnly_sameScalar : CountsOnly sameScalar where
  array other _ := by cases other <;> rfl
  object other _ := by cases other <;> rfl

/-- Coercion sees of a container only whether it is empty. -/
theorem countsOnly_looseScalar : CountsOnly looseScalar where
  array other length := by
    cases other <;> simp only [looseScalar, truthy, isVoid, isEmpty_of_length length]
  object other length := by
    cases other <;> simp only [looseScalar, truthy, isVoid, isEmpty_of_length length]

/-- Strict equality of leaves does not depend on their sides. -/
theorem sameScalar_comm (left right : Json) : sameScalar left right = sameScalar right left := by
  -- Two numbers are the same only within one representation.
  cases left <;> cases right <;> try rfl
  case bool.bool => exact BEq.comm
  case string.string => exact BEq.comm
  case number.number value other =>
    cases value <;> cases other <;> first | exact BEq.comm | rfl

namespace Rearranged

variable {left right other : Json}

/-- A rearranged document is in order with the same documents, since containers are so with none. -/
theorem looseCompare_left (rearranged : Rearranged left right) (other : Json) :
    left.looseCompare other = right.looseCompare other := by
  induction rearranged with
  | same => rfl
  | further _ _ first second => exact first.trans second
  | _ => cases other <;> rfl

/-- The same documents are in order with a rearranged one. -/
theorem looseCompare_right (rearranged : Rearranged left right) (other : Json) :
    other.looseCompare left = other.looseCompare right := by
  rw [looseCompare_swap left other, looseCompare_swap right other, rearranged.looseCompare_left]

/-- A rearranged document has the same text form, since containers have none. -/
theorem fieldText? (rearranged : Rearranged left right) : left.fieldText? = right.fieldText? := by
  induction rearranged with
  | same => rfl
  | further _ _ first second => exact first.trans second
  | _ => rfl

/-- Nothing is a rearrangement of null but null. -/
theorem eq_null_iff (rearranged : Rearranged left right) : left = null ↔ right = null := by
  induction rearranged with
  | same => rfl
  | further _ _ first second => exact first.trans second
  | _ => simp

/-- A rearranged document is strictly equal to the same documents. -/
theorem strictEq_left (rearranged : Rearranged left right) (other : Json) :
    left.strictEq other = right.strictEq other :=
  rearranged.agree_left countsOnly_sameScalar other

/-- A rearranged document is loosely equal to the same documents. -/
theorem looseEq_left (rearranged : Rearranged left right) (other : Json) :
    left.looseEq other = right.looseEq other :=
  rearranged.agree_left countsOnly_looseScalar other

/-- The same documents are strictly equal to a rearranged one. -/
theorem strictEq_right (rearranged : Rearranged left right) (unique : left.KeysUnique)
    (uniqueOther : other.KeysUnique) : other.strictEq left = other.strictEq right :=
  rearranged.agree_right countsOnly_sameScalar sameScalar_comm unique uniqueOther

/-- The same documents are loosely equal to a rearranged one. -/
theorem looseEq_right (rearranged : Rearranged left right) (unique : left.KeysUnique)
    (uniqueOther : other.KeysUnique) : other.looseEq left = other.looseEq right :=
  rearranged.agree_right countsOnly_looseScalar looseScalar_comm unique uniqueOther

/-- What is asked of any item of an operand is answered as before,
if each item answers as before. -/
theorem ofItems_any (rearranged : Rearranged left right) (unique : left.KeysUnique)
    {holds : Json → Bool}
    (each : ∀ item new, Rearranged item new → item.KeysUnique → holds item = holds new)
    (answer : Bool → Bool) :
    Operator.ofItems (fun items => answer (items.any holds)) left =
      Operator.ofItems (fun items => answer (items.any holds)) right := by
  induction rearranged with
  | same => rfl
  | further one _ first second => exact (first unique).trans (second (one.keysUnique unique))
  | members => rfl
  | inItem front back inner =>
    -- Only the one item changes, and it answers as before.
    have uniqueItem := itemsEverywhere_iff.mp unique.2 _ (List.mem_append_right _ List.mem_cons_self)
    simp only [Operator.ofItems, List.any_append, List.any_cons, each _ _ inner uniqueItem]
  | inMember => rfl

end Rearranged

end Json

namespace Operator

open Json

variable [Pattern.Engine] {field other : Option Json} {operand otherOperand value new : Json}

/-- Every operator says of a rearranged field what it says of the field. -/
theorem test_rearranged_field (operator : Operator) (rearranged : Rearranged value new)
    (operand : Json) : operator.test (some value) operand = operator.test (some new) operand := by
  have loose := rearranged.looseEq_left
  have strict := rearranged.strictEq_left operand
  have order := rearranged.looseCompare_left operand
  have text := rearranged.fieldText?
  have null_ := rearranged.eq_null_iff
  -- The two null tests look at null first, and a rearranged null is one as well.
  by_cases isNull : value = .null
  · rw [isNull, null_.mp isNull]
  · have notNull_ : new ≠ .null := fun same => isNull (null_.mpr same)
    have inItems : value.looseEq = new.looseEq := funext loose
    cases operator <;>
      simp only [test, Option.getD_some, loose, strict, inItems, ordered, order, relatesTexts, text,
        matchesField]

/-- Every operator says the same of a rearranged operand. -/
theorem test_rearranged_operand (operator : Operator) (rearranged : Rearranged operand otherOperand)
    (unique : operand.KeysUnique) (uniqueField : (field.getD .null).KeysUnique) :
    operator.test field operand = operator.test field otherOperand := by
  have loose := rearranged.looseEq_right unique uniqueField
  have strict := rearranged.strictEq_right unique uniqueField
  have order := rearranged.looseCompare_right (field.getD .null)
  have text := rearranged.fieldText?
  have items := rearranged.ofItems_any unique fun _ _ inner uniqueItem =>
    inner.looseEq_right uniqueItem uniqueField
  -- The two membership tests look inside the operand, and all others see it as a whole.
  cases operator with
  | isIn => exact items id
  | notIn => exact items (!·)
  -- The null tests ask for the field first, and then compare it with the operand.
  | null =>
    cases field with
    | none => rfl
    | some value => cases value <;> first | rfl | exact loose
  | notNull =>
    cases field with
    | none => rfl
    | some value => cases value <;> first | rfl | exact congrArg (!·) strict
  | _ => simp only [test, loose, strict, ordered, order, relatesTexts, regex?, pattern?, text]

/-- Every operator says the same of a rearranged field, which may be
absent, and a rearranged operand. -/
theorem test_rearranged (operator : Operator) (fields : Option.Rel Rearranged field other)
    (operands : Rearranged operand otherOperand) (uniqueField : (field.getD .null).KeysUnique)
    (unique : operand.KeysUnique) :
    operator.test field operand = operator.test other otherOperand := by
  -- The operand is rearranged first, and then the field.
  rw [operator.test_rearranged_operand operands unique uniqueField]
  cases fields with
  | none => rfl
  | some rearranged => exact operator.test_rearranged_field rearranged otherOperand

end Operator

/-- The elements of a list at the places that are marked. -/
def marked {α : Type} : List Bool → List α → List α
  | true :: marks, item :: rest => item :: marked marks rest
  | false :: marks, _ :: rest => marked marks rest
  | _, _ => []

section Marks

variable {α β : Type} {items : List α} {others : List β}

/-- Keeping what satisfies a test is keeping the places at which the test succeeds. -/
theorem marked_map (keep : α → Bool) (items : List α) :
    marked (items.map keep) items = items.filter keep := by
  induction items with
  | nil => rfl
  | cons item rest ih =>
    -- The first element is marked exactly if it is kept.
    cases kept : keep item with
    | true => simp [marked, kept, ih]
    | false => simp [marked, kept, ih]

/-- Elements that answer alike in the same places give the same answers. -/
theorem map_of_forall₂ {γ : Type} {left : α → γ} {right : β → γ}
    (alike : List.Forall₂ (fun item other => left item = right other) items others) :
    items.map left = others.map right := by
  induction alike with
  | nil => rfl
  | cons first _ ih => rw [List.map_cons, List.map_cons, first, ih]

/-- Elements that answer alike in the same places give a positive answer alike. -/
theorem any_of_forall₂ {left : α → Bool} {right : β → Bool}
    (alike : List.Forall₂ (fun item other => left item = right other) items others) :
    items.any left = others.any right := by
  have answers := map_of_forall₂ alike
  calc items.any left
    _ = (items.map left).any id := by rw [List.any_map, Function.id_comp]
    _ = (others.map right).any id := by rw [answers]
    _ = others.any right := by rw [List.any_map, Function.id_comp]

/-- Elements that answer alike in the same places give only positive answers alike. -/
theorem all_of_forall₂ {left : α → Bool} {right : β → Bool}
    (alike : List.Forall₂ (fun item other => left item = right other) items others) :
    items.all left = others.all right := by
  have answers := map_of_forall₂ alike
  calc items.all left
    _ = (items.map left).all id := by rw [List.all_map, Function.id_comp]
    _ = (others.map right).all id := by rw [answers]
    _ = others.all right := by rw [List.all_map, Function.id_comp]

/-- What is seen of the marked elements is what is marked of all that is seen. -/
theorem map_marked {γ : Type} (view : α → γ) (marks : List Bool) (items : List α) :
    (marked marks items).map view = marked marks (items.map view) := by
  -- The induction is on the marks, with as many elements as there are.
  induction marks generalizing items with
  | nil => rfl
  | cons mark more ih =>
    cases items with
    | nil => cases mark <;> rfl
    | cons item rest => cases mark <;> simp [marked, ih]

end Marks

/-- Conditions on the same key with the same operator, and with operands
of which one is the other rearranged. -/
structure Condition.Rearranged (condition other : Condition) : Prop where
  /-- The field is the same. -/
  key : condition.key = other.key
  /-- The operator is the same. -/
  operator : condition.operator = other.operator
  /-- One operand is the other rearranged. -/
  operand : Json.Rearranged condition.operand other.operand

/-- Sets whose conditions are rearranged place by place. -/
def ConditionSet.Rearranged (set other : ConditionSet) : Prop :=
  List.Forall₂ (List.Forall₂ Condition.Rearranged) set.groups other.groups

/-- Members of the same key, with values of which one is the other rearranged. -/
def Json.MemberRearranged (member other : String × Json) : Prop :=
  member.1 = other.1 ∧ Json.Rearranged member.2 other.2

/-- No part of a document without repeated keys has any. -/
theorem Json.keysUnique_child {record : Json} (unique : record.KeysUnique) (segment : Segment) :
    ((record.child segment).getD .null).KeysUnique := by
  cases found : record.child segment with
  | none => trivial
  | some value =>
    -- What a step leads to is a member or an item, and these have no repeated keys either.
    cases record with
    | object members =>
      obtain ⟨key, child⟩ := exists_child_object segment
      rw [child] at found
      exact membersEverywhere_iff.mp unique.2 _ (mem_of_find? found)
    | array items =>
      obtain ⟨position, child⟩ := exists_child_array segment
      rw [child] at found
      obtain ⟨place, _, inside⟩ := Option.bind_eq_some_iff.mp found
      exact itemsEverywhere_iff.mp unique.2 _ (List.mem_of_getElem? inside)
    | _ => contradiction

namespace Condition

variable [Pattern.Engine] {condition other : Condition} {record moved : Json}

/-- A rearranged condition holds of a rearranged record if and only
if the condition holds of the record. -/
theorem Rearranged.holdsOf (conditions : condition.Rearranged other)
    (records : Json.Rearranged record moved) (unique : condition.operand.KeysUnique)
    (uniqueRecord : record.KeysUnique) : condition.HoldsOf record ↔ other.HoldsOf moved := by
  obtain ⟨sameKey, sameOperator, operands⟩ := conditions
  have fields := records.child uniqueRecord (.field condition.key)
  have uniqueField := Json.keysUnique_child uniqueRecord (.field condition.key)
  -- The same operator is asked on either side.
  simp only [HoldsOf, ← sameKey, ← sameOperator]
  refine exists_congr fun operator => and_congr_right fun _ => ?_
  rw [operator.test_rearranged fields operands uniqueField unique]

end Condition

namespace ConditionSet

variable {set other : ConditionSet} {record moved : Json}

/-- The operators of a rearranged set are those of the set. -/
theorem Rearranged.known (sets : set.Rearranged other)
    (known : ∀ condition ∈ set.conditions, Operator.isAllowed condition.operator = true) :
    ∀ condition ∈ other.conditions, Operator.isAllowed condition.operator = true := by
  -- Place by place the tokens are the same.
  have operators : set.conditions.map (·.operator) = other.conditions.map (·.operator) := by
    simp only [conditions, List.map_flatten]
    congr 1
    apply map_of_forall₂
    exact sets.imp fun _ _ groups => map_of_forall₂ (groups.imp fun _ _ conditions => conditions.operator)
  -- So the token of every condition here is that of a condition there.
  intro condition inside
  have token : condition.operator ∈ set.conditions.map (·.operator) :=
    operators ▸ List.mem_map_of_mem inside
  obtain ⟨original, given, same⟩ := List.mem_map.mp token
  exact same ▸ known original given

section Engine

variable [Pattern.Engine]

/-- A set is satisfied if a group of it holds conditions and all of them hold. -/
theorem decide_satisfiedBy (set : ConditionSet) (record : Json) :
    decide (set.SatisfiedBy record) =
      set.groups.any fun group => !group.isEmpty && group.all fun condition =>
        decide (condition.HoldsOf record) := by
  rw [Bool.eq_iff_iff, decide_eq_true_iff]
  simp [SatisfiedBy]

/-- A rearranged set is satisfied by a rearranged record exactly when the set is by the record. -/
theorem Rearranged.satisfiedBy (sets : set.Rearranged other) (records : Json.Rearranged record moved)
    (unique : ∀ condition ∈ set.conditions, condition.operand.KeysUnique)
    (uniqueRecord : record.KeysUnique) :
    decide (set.SatisfiedBy record) = decide (other.SatisfiedBy moved) := by
  rw [decide_satisfiedBy, decide_satisfiedBy]
  apply any_of_forall₂
  -- Group by group there are as many conditions, and they hold alike.
  apply forall₂_of_mem sets
  intro group inSet moved_ _ groups
  have empty : group.isEmpty = moved_.isEmpty := isEmpty_of_length groups.length_eq
  -- All conditions of the group hold alike, since each one does.
  have all : (group.all fun condition => decide (condition.HoldsOf record)) =
      moved_.all fun condition => decide (condition.HoldsOf moved) := by
    apply all_of_forall₂
    apply forall₂_of_mem groups
    intro condition inGroup movedCondition _ conditions
    have uniqueOperand := unique condition (List.mem_flatten.mpr ⟨group, inSet, inGroup⟩)
    exact decide_eq_decide.mpr (conditions.holdsOf records uniqueOperand uniqueRecord)
  rw [empty, all]

/--
The order of members shows in no condition. An operator says the same of a field, which may be
absent, and an operand when the members of any objects inside them, at any depth, change their
order. So when they do inside the records of a collection and inside the operands of a set of known
operators, filtering keeps the items in the same places, and the members in the same places with the
same keys.
-/
theorem evaluate_rearranged :
    (∀ (operator : Operator) (field other : Option Json) (operand otherOperand : Json),
      (field.getD .null).KeysUnique → operand.KeysUnique →
      Option.Rel Json.Rearranged field other → Json.Rearranged operand otherOperand →
      operator.test field operand = operator.test other otherOperand) ∧
    ∀ set other : ConditionSet,
      (∀ condition ∈ set.conditions, Operator.isAllowed condition.operator = true) →
      (∀ condition ∈ set.conditions, condition.operand.KeysUnique) → set.Rearranged other →
      (∀ items others, (∀ item ∈ items, item.KeysUnique) →
        List.Forall₂ Json.Rearranged items others →
        ∃ marks, marks.length = items.length ∧
          ((Json.array items).evaluate set).result = .ok (.array (marked marks items)) ∧
          ((Json.array others).evaluate other).result = .ok (.array (marked marks others))) ∧
      ∀ members others, (∀ member ∈ members, member.2.KeysUnique) →
        List.Forall₂ Json.MemberRearranged members others →
        ∃ marks, marks.length = members.length ∧
          ((Json.object members).evaluate set).result = .ok (.object (marked marks members)) ∧
          ((Json.object others).evaluate other).result = .ok (.object (marked marks others)) ∧
          (marked marks members).map Prod.fst = (marked marks others).map Prod.fst := by
  constructor
  · intro operator field other operand otherOperand uniqueField unique fields operands
    exact operator.test_rearranged fields operands uniqueField unique
  intro set other known unique sets
  have knownOther := sets.known known
  constructor
  · intro items others uniqueItems alike
    have marks : (items.map fun record => decide (set.SatisfiedBy record)) =
        others.map fun record => decide (other.SatisfiedBy record) := by
      apply map_of_forall₂
      apply forall₂_of_mem alike
      intro item inside moved _ rearranged
      exact sets.satisfiedBy rearranged unique (uniqueItems item inside)
    -- The places that satisfy the set are the same, and filtering keeps what stands there.
    refine ⟨items.map fun record => decide (set.SatisfiedBy record), List.length_map _, ?_, ?_⟩
    · rw [evaluate_of_known known, marked_map]
      rfl
    · rw [evaluate_of_known knownOther, marks, marked_map]
      rfl
  · intro members others uniqueMembers alike
    have marks : (members.map fun member => decide (set.SatisfiedBy member.2)) =
        others.map fun member => decide (other.SatisfiedBy member.2) := by
      apply map_of_forall₂
      apply forall₂_of_mem alike
      intro member inside moved _ rearranged
      exact sets.satisfiedBy rearranged.2 unique (uniqueMembers member inside)
    -- Members keep their keys in their places, so the marked ones do.
    have keys : members.map Prod.fst = others.map Prod.fst :=
      map_of_forall₂ (alike.imp fun _ _ same => same.1)
    refine ⟨members.map fun member => decide (set.SatisfiedBy member.2), List.length_map _, ?_, ?_, ?_⟩
    · rw [evaluate_of_known known, marked_map]
      rfl
    · rw [evaluate_of_known knownOther, marks, marked_map]
      rfl
    · rw [map_marked, map_marked, keys]

end Engine

/-- An array that holds an object of two members. -/
def tags : Json :=
  .array [.null, .object [("x", .bool true), ("y", .null)]]

/-- The same array with the members of the object in the other order. -/
def movedTags : Json :=
  .array [.null, .object [("y", .null), ("x", .bool true)]]

/-- A record with that array in it, behind another member. -/
def taggedRecord : Json :=
  .object [("id", .string "7"), ("tags", tags)]

/-- The same record with the members of both objects in the other order. -/
def movedRecord : Json :=
  .object [("tags", movedTags), ("id", .string "7")]

/-- The set that asks for given tags. -/
def taggedWith (operand : Json) : ConditionSet :=
  ⟨[[⟨"tags", "==", operand⟩]]⟩

/-- Fields, operands and records are rearranged at two depths at
once, and the same places are kept. -/
theorem evaluate_rearranged_nested :
    Json.Rearranged tags movedTags ∧ Json.Rearranged taggedRecord movedRecord ∧
      Operator.isIn.test (some tags) (.array [tags]) =
        Operator.isIn.test (some movedTags) (.array [movedTags]) ∧
      ∃ marks, marks.length = [Json.null, taggedRecord].length ∧
        ((Json.array [.null, taggedRecord]).evaluate (taggedWith tags)).result =
          .ok (.array (marked marks [.null, taggedRecord])) ∧
        ((Json.array [.null, movedRecord]).evaluate (taggedWith movedTags)).result =
          .ok (.array (marked marks [.null, movedRecord])) := by
  obtain ⟨test, evaluate⟩ := evaluate_rearranged
  -- The members of the inner object change places first, and then those of the record.
  have inner : Json.Rearranged tags movedTags := .inItem [.null] [] (.members (.swap ..))
  have outer : Json.Rearranged taggedRecord movedRecord :=
    .further (.inMember [("id", .string "7")] [] "tags" inner) (.members (.swap ..))
  have uniqueTags : tags.KeysUnique := by
    simp [tags, Json.KeysUnique, Json.Everywhere, Json.ItemsEverywhere, Json.MembersEverywhere,
      Json.KeysDiffer]
  have uniqueRecord : taggedRecord.KeysUnique := by
    have keys : (["id", "tags"] : List String).Nodup := by decide
    exact ⟨keys, trivial, uniqueTags, trivial⟩
  refine ⟨inner, outer, ?_, ?_⟩
  · have uniqueOperand : (Json.array [tags]).KeysUnique := ⟨trivial, uniqueTags, trivial⟩
    exact test .isIn (some tags) (some movedTags) _ _ uniqueTags uniqueOperand (.some inner)
      (.inItem [] [] inner)
  · have known : ∀ condition ∈ (taggedWith tags).conditions,
        Operator.isAllowed condition.operator = true := by
      simp [taggedWith, conditions, Operator.isAllowed, Operator.ofToken?, Operator.all, Operator.token]
    have uniqueOperands : ∀ condition ∈ (taggedWith tags).conditions,
        condition.operand.KeysUnique := by
      simpa [taggedWith, conditions] using uniqueTags
    have sets : (taggedWith tags).Rearranged (taggedWith movedTags) :=
      .cons (.cons ⟨rfl, rfl, inner⟩ .nil) .nil
    have uniqueItems : ∀ item ∈ [Json.null, taggedRecord], item.KeysUnique :=
      List.forall_mem_cons.mpr ⟨trivial, List.forall_mem_singleton.mpr uniqueRecord⟩
    have alike : List.Forall₂ Json.Rearranged [.null, taggedRecord] [.null, movedRecord] :=
      .cons (.same _) (.cons outer .nil)
    exact (evaluate _ _ known uniqueOperands sets).1 _ _ uniqueItems alike

end ConditionSet

end RecordFilter
