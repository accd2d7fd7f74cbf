import RecordFilter.Condition.Builder

/-! A builder is a list of groups: steps open groups at its end,
and conditions join the last one. -/

namespace RecordFilter

namespace ConditionSet

/-- A set is empty when it holds no conditions, in whatever groups. -/
theorem isEmpty_iff {set : ConditionSet} : set.isEmpty = true ↔ set.conditions = [] := by
  simp [isEmpty, conditions]

end ConditionSet

namespace ConditionBuilder

variable {front groups : List ConditionGroup} {last : ConditionGroup} {condition : Condition}

/-- The builder of some groups, of which the last one is current. -/
def ofGroups (groups : List ConditionGroup) : ConditionBuilder :=
  ⟨⟨groups⟩, if groups.isEmpty then none else some (groups.length - 1)⟩

/-- The current group is the one behind all others. -/
theorem ofGroups_append :
    ofGroups (front ++ [last]) = ⟨⟨front ++ [last]⟩, some front.length⟩ := by
  simp [ofGroups]

/-- A new builder has no groups. -/
theorem new_eq_ofGroups : new = ofGroups [] := rfl

/-- A new group is opened behind all others. -/
theorem openGroup_ofGroups : (ofGroups groups).openGroup = ofGroups (groups ++ [[]]) := by
  rw [ofGroups_append]
  rfl

/-- A group is opened only where there is none. -/
theorem ensureGroup_ofGroups_append :
    (ofGroups (front ++ [last])).ensureGroup = ofGroups (front ++ [last]) := by
  rw [ofGroups_append]
  rfl

/-- A condition is put at the end of the last group, and no other group changes. -/
theorem push_ofGroups_append :
    (ofGroups (front ++ [last])).push condition = ofGroups (front ++ [last ++ [condition]]) := by
  -- The position of the last group is the number of the groups in front of it.
  rw [ofGroups_append, ofGroups_append]
  simp only [push]
  rw [List.modify_eq_take_cons_drop (by simp)]
  simp

/-- The first condition opens the first group. -/
theorem andWhere_ofGroups_nil : (ofGroups []).andWhere condition = ofGroups [[condition]] := rfl

/-- A further condition joins the last group. -/
theorem andWhere_ofGroups_append :
    (ofGroups (front ++ [last])).andWhere condition = ofGroups (front ++ [last ++ [condition]]) := by
  rw [andWhere, ensureGroup_ofGroups_append, push_ofGroups_append]

/-- A condition for a new group opens it behind all others. -/
theorem orWhere_ofGroups :
    (ofGroups groups).orWhere condition = ofGroups (groups ++ [[condition]]) := by
  rw [orWhere, openGroup_ofGroups, push_ofGroups_append, List.nil_append]

/-- Conditions are put behind those of the last group one after another. -/
theorem foldl_andWhere_ofGroups_append (conditions : List Condition) :
    conditions.foldl andWhere (ofGroups (front ++ [last])) =
      ofGroups (front ++ [last ++ conditions]) := by
  -- The last group grows with every condition, so the induction is for any such group.
  induction conditions generalizing last with
  | nil => simp
  | cons condition rest ih => simp [andWhere_ofGroups_append, ih]

/-- Conditions for new groups open one group each behind all others. -/
theorem foldl_orWhere_ofGroups (groups : List ConditionGroup) (conditions : List Condition) :
    conditions.foldl orWhere (ofGroups groups) =
      ofGroups (groups ++ conditions.map fun condition => [condition]) := by
  induction conditions generalizing groups with
  | nil => simp
  | cons condition rest ih => simp [orWhere_ofGroups, ih]

/-- Groups of which the last takes in further conditions; without
any group they are the first one. -/
def joinLast (groups : List ConditionGroup) (conditions : List Condition) : List ConditionGroup :=
  match groups.getLast? with
  | some last => groups.dropLast ++ [last ++ conditions]
  -- No group is opened for want of conditions.
  | none => if conditions.isEmpty then [] else [conditions]

/--
Groups with those of a set behind them: the first of the set joins the last one, and of its others
those that hold conditions follow.
-/
def spliced (groups : List ConditionGroup) : List ConditionGroup → List ConditionGroup
  | [] => groups
  | first :: rest => joinLast groups first ++ rest.filter fun group => !group.isEmpty

/-- Where there is a last group, that one takes the conditions in. -/
theorem joinLast_append {conditions : List Condition} :
    joinLast (front ++ [last]) conditions = front ++ [last ++ conditions] := by
  simp [joinLast]

/-- Conditions join the last group one after another, and the first of
them opens one where there is none. -/
theorem foldl_andWhere_ofGroups (groups : List ConditionGroup) (conditions : List Condition) :
    conditions.foldl andWhere (ofGroups groups) = ofGroups (joinLast groups conditions) := by
  -- Without groups the first condition opens one, and the others join it there.
  rcases List.eq_nil_or_concat groups with rfl | ⟨front, last, rfl⟩
  · cases conditions with
    | nil => rfl
    | cons first rest =>
      rw [List.foldl_cons, andWhere_ofGroups_nil, ← List.nil_append [[first]],
        foldl_andWhere_ofGroups_append]
      rfl
  · rw [List.concat_eq_append, foldl_andWhere_ofGroups_append, joinLast_append]

/-- A group that holds conditions is spliced behind all others. -/
theorem spliceGroup_ofGroups (first : Condition) (rest : List Condition) :
    (ofGroups groups).spliceGroup (first :: rest) = ofGroups (groups ++ [first :: rest]) := by
  rw [spliceGroup, orWhere_ofGroups, foldl_andWhere_ofGroups_append, List.singleton_append]

/-- Of the later groups of a set those that hold conditions are spliced
in, and the empty ones are not. -/
theorem foldl_spliceGroup_ofGroups (groups more : List ConditionGroup) :
    more.foldl spliceGroup (ofGroups groups) =
      ofGroups (groups ++ more.filter fun group => !group.isEmpty) := by
  induction more generalizing groups with
  | nil => simp
  | cons group rest ih =>
    -- An empty group opens nothing, and the builder goes on to the next one.
    cases group with
    | nil => exact ih groups
    | cons first others =>
      rw [List.foldl_cons, spliceGroup_ofGroups, ih]
      simp

/-- A set goes in behind the groups of a builder. -/
theorem splice_ofGroups (groups : List ConditionGroup) (set : ConditionSet) :
    (ofGroups groups).splice set = ofGroups (spliced groups set.groups) := by
  obtain ⟨given⟩ := set
  cases given with
  | nil => rfl
  | cons first rest =>
    -- The first group joins the last one of the builder, and the others are spliced in.
    simp only [splice, foldl_andWhere_ofGroups, foldl_spliceGroup_ofGroups, spliced]

/-- A new builder takes over the groups of a set that hold conditions. -/
theorem splice_new (set : ConditionSet) : new.splice set = ofGroups set.withoutEmpty.groups := by
  obtain ⟨groups⟩ := set
  rw [new_eq_ofGroups, splice_ofGroups]
  -- An empty first group opens nothing in a new builder, so it is left out as well.
  cases groups with
  | nil => rfl
  | cons first rest => cases first <;> rfl

/-- A new builder takes a set over as it is, if no group of it is empty. -/
theorem splice_ofGroups_nil (inhabited : ∀ group ∈ groups, group ≠ []) :
    (ofGroups []).splice ⟨groups⟩ = ofGroups groups := by
  have all : groups.filter (fun group => !group.isEmpty) = groups := by
    simpa using inhabited
  rw [← new_eq_ofGroups, splice_new, ConditionSet.withoutEmpty, all]

end ConditionBuilder

end RecordFilter
