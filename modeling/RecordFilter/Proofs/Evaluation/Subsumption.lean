import Mathlib.Data.List.Basic
import RecordFilter.Proofs.Evaluation.Meaning

/-! A set means its groups, and a group its conditions: more conditions keep fewer records, and more
groups keep more. -/

namespace RecordFilter

namespace Json

/-- Whether one filter has left of a collection a part of what another one has. -/
inductive PartOf : Json → Json → Prop
  /-- Some of the items are left, in their order. -/
  | items {left right : List Json} (part : left.Sublist right) : PartOf (.array left) (.array right)
  /-- Some of the members are left, in their order and under their keys. -/
  | members {left right : List (String × Json)} (part : left.Sublist right) :
      PartOf (.object left) (.object right)

/-- A stricter condition keeps a part of what another one keeps. -/
theorem filterRecords_partOf {keep also : Json → Bool}
    (stricter : ∀ record, keep record = true → also record = true) (collection : Json) :
    (collection.filterRecords keep).PartOf (collection.filterRecords also) := by
  -- What the one keeps is what the other keeps, with some of it left out.
  cases collection with
  | array items => exact .items (List.monotone_filter_right items stricter)
  | object members =>
    exact .members (List.monotone_filter_right members fun member => stricter member.2)
  -- Of a scalar both keep the same nothing.
  | null | bool | number | string => exact .items (List.Sublist.refl [])

end Json

namespace ConditionSet

variable {set other : ConditionSet} {record : Json}

/-- Whether every group that holds conditions has all conditions of such a group of another set. -/
def SubsumedBy (set other : ConditionSet) : Prop :=
  ∀ group ∈ set.groups, group ≠ [] → ∃ wider ∈ other.groups, wider ≠ [] ∧ wider ⊆ group

/-- Whether two sets have the same groups of the same conditions, in whatever order and number. -/
def SameGroups (set other : ConditionSet) : Prop :=
  (∀ group ∈ set.groups, ∃ same ∈ other.groups, group ⊆ same ∧ same ⊆ group) ∧
    ∀ group ∈ other.groups, ∃ same ∈ set.groups, group ⊆ same ∧ same ⊆ group

/-- Filtering by either set succeeds, and the one keeps a part of what the other keeps. -/
def KeepsPart [Pattern.Engine] (set other : ConditionSet) (collection : Json) : Prop :=
  ∃ kept more, (collection.evaluate set).result = .ok kept ∧
    (collection.evaluate other).result = .ok more ∧ kept.PartOf more

/-- Sets have the same groups in either order. -/
theorem SameGroups.symm (same : set.SameGroups other) : other.SameGroups set :=
  And.symm same

/-- A set is subsumed by any other with the same groups. -/
theorem SameGroups.subsumedBy (same : set.SameGroups other) : set.SubsumedBy other := by
  intro group inside inhabited
  obtain ⟨copy, insideOther, covers, covered⟩ := same.1 group inside
  refine ⟨copy, insideOther, ?_, covered⟩
  -- The copy has the conditions of the group, of which there are some.
  rintro rfl
  exact inhabited (List.subset_nil.mp covers)

/-- Sets of the same groups have the same conditions. -/
theorem SameGroups.conditions_subset (same : set.SameGroups other) :
    other.conditions ⊆ set.conditions := by
  intro condition inside
  obtain ⟨group, inGroups, inGroup⟩ := List.mem_flatten.mp inside
  -- The group of the condition has a copy in the set, and that holds it too.
  obtain ⟨copy, inSet, covers, _⟩ := same.2 group inGroups
  exact List.mem_flatten.mpr ⟨copy, inSet, covers inGroup⟩

section Changes

variable {front back : List ConditionGroup} {group : ConditionGroup} {left right : List Condition}
  {condition : Condition}

/-- A set is subsumed by the set with another group. -/
theorem subsumedBy_insert_group : (mk (front ++ back)).SubsumedBy ⟨front ++ group :: back⟩ := by
  intro wider inside inhabited
  -- Every group is still there, and has all of its own conditions.
  refine ⟨wider, ?_, inhabited, List.Subset.refl wider⟩
  simp only [List.mem_append, List.mem_cons] at inside ⊢
  tauto

/-- A set with another condition in a group that holds some is subsumed by the set. -/
theorem subsumedBy_of_insert_condition (inhabited : left ++ right ≠ []) :
    (mk (front ++ (left ++ condition :: right) :: back)).SubsumedBy
      ⟨front ++ (left ++ right) :: back⟩ := by
  intro narrower inside some_
  simp only [List.mem_append, List.mem_cons] at inside
  -- Only the group that the condition is put into changes.
  by_cases changed : narrower = left ++ condition :: right
  · -- Without the condition the group is wider, and it still holds conditions.
    refine ⟨left ++ right, by simp, inhabited, ?_⟩
    rw [changed]
    exact List.append_subset.mpr ⟨List.subset_append_left .., fun other member => by simp [member]⟩
  · -- Any other group stays, with all of its own conditions.
    refine ⟨narrower, ?_, some_, List.Subset.refl narrower⟩
    simp only [List.mem_append, List.mem_cons]
    tauto

/-- A set without one of its groups has conditions of the set only. -/
theorem conditions_remove_group (groups : set.groups = front ++ group :: back) :
    (mk (front ++ back)).conditions ⊆ set.conditions := by
  intro condition inside
  simp only [conditions, groups, List.flatten_append, List.flatten_cons, List.mem_append] at inside ⊢
  tauto

/-- A set without one of its conditions has conditions of the set only. -/
theorem conditions_remove_condition
    (groups : set.groups = front ++ (left ++ condition :: right) :: back) :
    (mk (front ++ (left ++ right) :: back)).conditions ⊆ set.conditions := by
  intro other inside
  simp only [conditions, groups, List.flatten_append, List.flatten_cons, List.mem_append,
    List.mem_cons] at inside ⊢
  tauto

end Changes

section Engine

variable [Pattern.Engine]

/-- What satisfies a set satisfies every set that it is subsumed by. -/
theorem SubsumedBy.satisfiedBy (subsumed : set.SubsumedBy other) (satisfied : set.SatisfiedBy record) :
    other.SatisfiedBy record := by
  obtain ⟨group, inside, inhabited, all⟩ := satisfied
  -- Of the conditions that hold, those of the wider group are some.
  obtain ⟨wider, insideOther, some_, subset⟩ := subsumed group inside inhabited
  exact ⟨wider, insideOther, some_, fun condition member => all condition (subset member)⟩

/-- Of known operators, a set keeps a part of what is kept by every set that it is subsumed by. -/
theorem SubsumedBy.keepsPart (subsumed : set.SubsumedBy other)
    (known : ∀ condition ∈ set.conditions, Operator.isAllowed condition.operator = true)
    (otherKnown : ∀ condition ∈ other.conditions, Operator.isAllowed condition.operator = true)
    (collection : Json) : set.KeepsPart other collection := by
  refine ⟨_, _, evaluate_of_known known collection, evaluate_of_known otherKnown collection, ?_⟩
  -- Both sets are resolved, so only the records that satisfy them are compared.
  refine Json.filterRecords_partOf (fun record satisfied => ?_) collection
  exact decide_eq_true (subsumed.satisfiedBy (of_decide_eq_true satisfied))

/--
By a set of known operators no record is kept that is not kept by every set of known operators of
which each group that holds conditions has all of those of such a group. So the order and the number
of the groups, and of the conditions in a group, make no difference; with another group no record is
lost, and with another condition in a group that holds some no record is won.
-/
theorem evaluate_monotone (set : ConditionSet)
    (known : ∀ condition ∈ set.conditions, Operator.isAllowed condition.operator = true)
    (collection : Json) :
    (∀ other : ConditionSet,
      (∀ condition ∈ other.conditions, Operator.isAllowed condition.operator = true) →
      set.SubsumedBy other → set.KeepsPart other collection) ∧
    (∀ other : ConditionSet, set.SameGroups other →
      (collection.evaluate other).result = (collection.evaluate set).result) ∧
    (∀ front group back, set.groups = front ++ group :: back →
      KeepsPart ⟨front ++ back⟩ set collection) ∧
    ∀ front left condition right back,
      set.groups = front ++ (left ++ condition :: right) :: back → left ++ right ≠ [] →
      set.KeepsPart ⟨front ++ (left ++ right) :: back⟩ collection := by
  obtain ⟨groups⟩ := set
  refine ⟨fun other otherKnown subsumed => subsumed.keepsPart known otherKnown collection,
    fun other same => ?_, fun front group back parts => ?_,
    fun front left condition right back parts inhabited => ?_⟩
  · -- Sets of the same groups are subsumed by each other, and so are satisfied by the same records.
    have satisfied : ∀ record, other.SatisfiedBy record ↔ (mk groups).SatisfiedBy record :=
      fun record => ⟨same.symm.subsumedBy.satisfiedBy, same.subsumedBy.satisfiedBy⟩
    rw [evaluate_of_known known, evaluate_of_known fun condition inside =>
      known condition (same.conditions_subset inside)]
    simp only [satisfied]
  · have fewer := conditions_remove_group parts
    obtain rfl : groups = _ := parts
    exact subsumedBy_insert_group.keepsPart (fun condition inside => known condition (fewer inside))
      known collection
  · have fewer := conditions_remove_condition parts
    obtain rfl : groups = _ := parts
    exact (subsumedBy_of_insert_condition inhabited).keepsPart known
      (fun condition inside => known condition (fewer inside)) collection

end Engine

/-- The condition that there is a name. -/
def hasName : Condition := ⟨"name", "notnull", .null⟩

/-- The condition that there is an age. -/
def hasAge : Condition := ⟨"age", "notnull", .null⟩

/-- Two people, of whom one has a name only. -/
def namedPeople : Json :=
  .array [.object [("name", .string "Rex")], .object [("age", .bool true), ("name", .string "Max")]]

/-- A group of two conditions and an empty one, against one condition, repetitions, and what is left
without a part. -/
theorem evaluate_monotone_named :
    (mk [[hasName, hasAge], []]).SubsumedBy ⟨[[hasAge], []]⟩ ∧
      (mk [[hasName, hasAge], []]).KeepsPart ⟨[[hasAge], []]⟩ namedPeople ∧
      (namedPeople.evaluate ⟨[[], [hasAge, hasName, hasAge], [hasName, hasAge]]⟩).result =
        (namedPeople.evaluate ⟨[[hasName, hasAge], []]⟩).result ∧
      KeepsPart ⟨[[]]⟩ ⟨[[hasName, hasAge], []]⟩ namedPeople ∧
      KeepsPart ⟨[[hasName, hasAge], []]⟩ ⟨[[hasName], []]⟩ namedPeople := by
  have known : ∀ condition ∈ (mk [[hasName, hasAge], []]).conditions,
      Operator.isAllowed condition.operator = true := by decide
  have ageKnown : ∀ condition ∈ (mk [[hasAge], []]).conditions,
      Operator.isAllowed condition.operator = true := by decide
  have subsumed : (mk [[hasName, hasAge], []]).SubsumedBy ⟨[[hasAge], []]⟩ := by
    simp [SubsumedBy]
  have same : (mk [[hasName, hasAge], []]).SameGroups
      ⟨[[], [hasAge, hasName, hasAge], [hasName, hasAge]]⟩ := by
    simp [SameGroups]
  obtain ⟨wider, repeated, group, condition⟩ :=
    evaluate_monotone ⟨[[hasName, hasAge], []]⟩ known namedPeople
  exact ⟨subsumed, wider _ ageKnown subsumed, repeated _ same,
    group [] [hasName, hasAge] [[]] rfl, condition [] [hasName] hasAge [] [[]] rfl (by simp)⟩

end ConditionSet

end RecordFilter
