import Mathlib.Data.Nat.PSub
import RecordFilter.Proofs.Condition.Reachable

/-! The current group of a builder is always the last one, so no step
asks for a group that is not there. -/

namespace RecordFilter

namespace ConditionBuilder

-- Positions are looked up here as they are used, and a step that
-- asks for a missing group gives nothing.

/-- The builder with one more condition in the group at a position,
unless there is no such group. -/
def pushAt? (builder : ConditionBuilder) (position : Nat) (condition : Condition) :
    Option ConditionBuilder :=
  builder.set.groups[position]?.map fun group =>
    { builder with set := ⟨builder.set.groups.set position (group ++ [condition])⟩ }

/-- Opens a new group, and gives its position: one less than there are groups then. -/
def openGroup? (builder : ConditionBuilder) : Option (Nat × ConditionBuilder) :=
  let groups := builder.set.groups ++ [[]]
  -- There would be no position if there were no group.
  groups.length.ppred.map fun position => (position, ⟨⟨groups⟩, some position⟩)

/-- The position of the current group, which is opened if there is none yet. -/
def currentGroup? (builder : ConditionBuilder) : Option (Nat × ConditionBuilder) :=
  match builder.current with
  -- The position is taken as it is, be there a group or not.
  | some position => some (position, builder)
  | none => builder.openGroup?

/-- Adds a condition to the current group. -/
def andWhere? (builder : ConditionBuilder) (condition : Condition) : Option ConditionBuilder :=
  builder.currentGroup?.bind fun (position, opened) => opened.pushAt? position condition

/-- Adds a condition in a new group. -/
def orWhere? (builder : ConditionBuilder) (condition : Condition) : Option ConditionBuilder :=
  builder.openGroup?.bind fun (position, opened) => opened.pushAt? position condition

/-- Lets something that may fail itself go on in the current group. -/
def whereGroup? (builder : ConditionBuilder) (build : ConditionBuilder → Option ConditionBuilder) :
    Option ConditionBuilder :=
  builder.currentGroup?.bind fun (_, opened) => build opened

/-- Lets something that may fail itself go on in a new group. -/
def orWhereGroup? (builder : ConditionBuilder)
    (build : ConditionBuilder → Option ConditionBuilder) : Option ConditionBuilder :=
  builder.openGroup?.bind fun (_, opened) => build opened

mutual

/-- The builder after one step, unless the step asks for a group that is not there. -/
def step? (builder : ConditionBuilder) : BuilderStep → Option ConditionBuilder
  | .andWhere condition => builder.andWhere? condition
  | .orWhere condition => builder.orWhere? condition
  -- The steps with an operator of their own all add to the current group.
  | .whereOperator key operator operand => builder.andWhere? ⟨key, operator.token, operand⟩
  | .whereIn key values => builder.andWhere? ⟨key, Operator.isIn.token, .array values⟩
  | .whereNotIn key values => builder.andWhere? ⟨key, Operator.notIn.token, .array values⟩
  | .whereNull key => builder.andWhere? ⟨key, Operator.null.token, .null⟩
  | .whereNotNull key => builder.andWhere? ⟨key, Operator.notNull.token, .null⟩
  | .whereStartsWith key operand => builder.andWhere? ⟨key, Operator.startsWith.token, operand⟩
  | .whereEndsWith key operand => builder.andWhere? ⟨key, Operator.endsWith.token, operand⟩
  | .whereMatch key operand => builder.andWhere? ⟨key, Operator.fullMatch.token, operand⟩
  | .whereContains key operand => builder.andWhere? ⟨key, Operator.contains.token, operand⟩
  | .whereGroup steps => builder.whereGroup? fun inner => inner.steps? steps
  | .orWhereGroup steps => builder.orWhereGroup? fun inner => inner.steps? steps

/-- The builder after several steps, unless one of them fails. -/
def steps? (builder : ConditionBuilder) : List BuilderStep → Option ConditionBuilder
  | [] => some builder
  | first :: rest => (builder.step? first).bind fun after => after.steps? rest

end

/-- Adds the conditions of a later group of a set, one after another. -/
def spliceGroup? (builder : ConditionBuilder) : ConditionGroup → Option ConditionBuilder
  | [] => some builder
  | first :: rest => (builder.orWhere? first).bind fun opened => rest.foldlM andWhere? opened

/-- Adds the conditions of a finished set, one after another. -/
def splice? (builder : ConditionBuilder) (set : ConditionSet) : Option ConditionBuilder :=
  match set.groups with
  | [] => some builder
  | first :: rest =>
    (first.foldlM andWhere? builder).bind fun joined => rest.foldlM spliceGroup? joined

/-- A position without a group is not looked over. -/
example : (⟨.empty, some 0⟩ : ConditionBuilder).andWhere? ⟨"a", "=", .null⟩ = none := rfl

/-- A current group if there are groups, and then the last of them. -/
structure CurrentIsLast (builder : ConditionBuilder) : Prop where
  /-- No group is current exactly where there are none. -/
  none_iff : builder.current = none ↔ builder.set.groups = []
  /-- Where there are groups, positions are counted from zero up to that of the current one. -/
  last : builder.set.groups ≠ [] → builder.current = some (builder.set.groups.length - 1)

/-- Builders made of groups are of this kind. -/
theorem currentIsLast_ofGroups (groups : List ConditionGroup) : (ofGroups groups).CurrentIsLast := by
  constructor
  · cases groups <;> simp [ofGroups]
  · intro some_
    exact if_neg (by simpa [ofGroups] using some_)

section Positions

variable {front groups : List ConditionGroup} {last : ConditionGroup} {condition : Condition}

/-- The position of a new group is the number of groups before it. -/
theorem openGroup?_ofGroups :
    (ofGroups groups).openGroup? = some (groups.length, ofGroups (groups ++ [[]])) := by
  simp [openGroup?, ofGroups]

/-- The position of the current group is the number of groups in front of it. -/
theorem currentGroup?_ofGroups (groups : List ConditionGroup) :
    ∃ front last, (ofGroups groups).currentGroup? = some (front.length, ofGroups (front ++ [last])) ∧
      (ofGroups groups).ensureGroup = ofGroups (front ++ [last]) := by
  rcases List.eq_nil_or_concat' groups with rfl | ⟨front, last, rfl⟩
  · -- The first group is opened, and nothing is in front of it.
    exact ⟨[], [], rfl, rfl⟩
  · refine ⟨front, last, ?_, ensureGroup_ofGroups_append⟩
    rw [ofGroups_append]
    rfl

/-- There is a group at that position, and it takes in a condition. -/
theorem pushAt?_ofGroups_append :
    (ofGroups (front ++ [last])).pushAt? front.length condition =
      some (ofGroups (front ++ [last ++ [condition]])) := by
  -- Behind as many groups as are in front, the last one is found and replaced.
  rw [ofGroups_append, ofGroups_append]
  simp [pushAt?]

variable {build : ConditionBuilder → Option ConditionBuilder}

/-- What goes on in the current group is handed the builder with that group open. -/
theorem whereGroup?_ofGroups :
    (ofGroups groups).whereGroup? build = build (ofGroups groups).ensureGroup := by
  obtain ⟨front, last, asked, ensured⟩ := currentGroup?_ofGroups groups
  rw [whereGroup?, asked, Option.bind_some, ensured]

/-- What goes on in a new group is handed the builder with one group more. -/
theorem orWhereGroup?_ofGroups :
    (ofGroups groups).orWhereGroup? build = build (ofGroups groups).openGroup := by
  rw [orWhereGroup?, openGroup?_ofGroups, Option.bind_some, openGroup_ofGroups]

end Positions

/--
A change with positions looked up that fails on no builder made of groups, and a change without that
does the same to it and makes such a builder of it again.
-/
def Succeeds (checked : ConditionBuilder → Option ConditionBuilder)
    (change : ConditionBuilder → ConditionBuilder) : Prop :=
  ∀ groups, ∃ more, checked (ofGroups groups) = some (ofGroups more) ∧
    change (ofGroups groups) = ofGroups more

section Succeeds

variable {checked checkedNext : ConditionBuilder → Option ConditionBuilder}
  {change next : ConditionBuilder → ConditionBuilder}

/-- To change nothing is no failure. -/
theorem succeeds_some : Succeeds some id :=
  fun groups => ⟨groups, rfl, rfl⟩

/-- One change after another succeeds if both do. -/
theorem Succeeds.bind (first : Succeeds checked change) (second : Succeeds checkedNext next) :
    Succeeds (fun builder => (checked builder).bind checkedNext)
      (fun builder => next (change builder)) := by
  intro groups
  obtain ⟨between, found, same⟩ := first groups
  obtain ⟨more, foundNext, sameNext⟩ := second between
  refine ⟨more, ?_, ?_⟩
  · show (checked (ofGroups groups)).bind checkedNext = some (ofGroups more)
    rw [found, Option.bind_some, foundNext]
  · show next (change (ofGroups groups)) = ofGroups more
    rw [same, sameNext]

/-- Changes for the items of a list succeed in a row if each one does. -/
theorem succeeds_foldl {α : Type} {checked : ConditionBuilder → α → Option ConditionBuilder}
    {change : ConditionBuilder → α → ConditionBuilder}
    (each : ∀ item, Succeeds (checked · item) (change · item)) (items : List α) :
    Succeeds (items.foldlM checked) (items.foldl change) := by
  induction items with
  | nil => exact succeeds_some
  -- The change for the first item is followed by those for the rest.
  | cons item rest ih => exact (each item).bind ih

/-- A condition for the current group finds one, or opens it. -/
theorem succeeds_andWhere (condition : Condition) :
    Succeeds (·.andWhere? condition) (·.andWhere condition) := by
  intro groups
  obtain ⟨front, last, asked, ensured⟩ := currentGroup?_ofGroups groups
  refine ⟨front ++ [last ++ [condition]], ?_, ?_⟩
  · show (ofGroups groups).andWhere? condition = _
    rw [andWhere?, asked, Option.bind_some]
    exact pushAt?_ofGroups_append
  · show (ofGroups groups).andWhere condition = _
    rw [andWhere, ensured, push_ofGroups_append]

/-- A condition for a new group finds the group that it opened. -/
theorem succeeds_orWhere (condition : Condition) :
    Succeeds (·.orWhere? condition) (·.orWhere condition) := by
  intro groups
  refine ⟨groups ++ [[condition]], ?_, orWhere_ofGroups⟩
  show (ofGroups groups).orWhere? condition = _
  rw [orWhere?, openGroup?_ofGroups, Option.bind_some]
  -- The new group was empty, and holds the condition alone.
  exact pushAt?_ofGroups_append

/-- What succeeds on any builder does so in the current group. -/
theorem Succeeds.whereGroup (inner : Succeeds checked change) :
    Succeeds (·.whereGroup? checked) (·.whereGroup change) := by
  intro groups
  -- The builder that is handed over has a current group already.
  obtain ⟨front, last, -, ensured⟩ := currentGroup?_ofGroups groups
  obtain ⟨more, found, same⟩ := inner (front ++ [last])
  rw [← ensured] at found same
  refine ⟨more, ?_, same⟩
  show (ofGroups groups).whereGroup? checked = some (ofGroups more)
  rw [whereGroup?_ofGroups, found]

/-- So it does in a new group. -/
theorem Succeeds.orWhereGroup (inner : Succeeds checked change) :
    Succeeds (·.orWhereGroup? checked) (·.orWhereGroup change) := by
  intro groups
  obtain ⟨more, found, same⟩ := inner (groups ++ [[]])
  rw [← openGroup_ofGroups] at found same
  refine ⟨more, ?_, same⟩
  show (ofGroups groups).orWhereGroup? checked = some (ofGroups more)
  rw [orWhereGroup?_ofGroups, found]

-- A step of any kind adds a condition, or leads over the steps of a group that it opens first.

mutual

/-- Every step succeeds, and what is nested in it does as well. -/
theorem succeeds_step (step : BuilderStep) : Succeeds (·.step? step) (·.step step) := by
  cases step with
  | andWhere condition => exact succeeds_andWhere condition
  | orWhere condition => exact succeeds_orWhere condition
  | whereOperator | whereIn | whereNotIn | whereNull | whereNotNull | whereStartsWith
  | whereEndsWith | whereMatch | whereContains => exact succeeds_andWhere _
  | whereGroup steps => exact (succeeds_steps steps).whereGroup
  | orWhereGroup steps => exact (succeeds_steps steps).orWhereGroup

/-- Several steps succeed one after another. -/
theorem succeeds_steps (steps : List BuilderStep) : Succeeds (·.steps? steps) (·.steps steps) := by
  cases steps with
  | nil => exact succeeds_some
  | cons first rest => exact (succeeds_step first).bind (succeeds_steps rest)

end

/-- The conditions of a later group of a set go in one after another. -/
theorem succeeds_spliceGroup (group : ConditionGroup) :
    Succeeds (·.spliceGroup? group) (·.spliceGroup group) := by
  cases group with
  | nil => exact succeeds_some
  | cons first rest => exact (succeeds_orWhere first).bind (succeeds_foldl succeeds_andWhere rest)

/-- The conditions of a set go in one after another. -/
theorem succeeds_splice (set : ConditionSet) : Succeeds (·.splice? set) (·.splice set) := by
  obtain ⟨groups⟩ := set
  cases groups with
  | nil => exact succeeds_some
  | cons first rest =>
    -- The first group goes in condition by condition, and the others group by group.
    exact (succeeds_foldl succeeds_andWhere first).bind (succeeds_foldl succeeds_spliceGroup rest)

end Succeeds

variable {builder : ConditionBuilder} {build : ConditionBuilder → Option ConditionBuilder}

/-- In every builder that has been reached the current group is the last one. -/
theorem Reachable.currentIsLast (reachable : builder.Reachable) : builder.CurrentIsLast := by
  obtain ⟨groups, rfl⟩ := reachable.exists_groups
  exact currentIsLast_ofGroups groups

/-- On a builder that has been reached a change that succeeds does
what it does without looking up. -/
theorem Succeeds.eq_some {checked : ConditionBuilder → Option ConditionBuilder}
    {change : ConditionBuilder → ConditionBuilder} (succeeds : Succeeds checked change)
    (reachable : builder.Reachable) : checked builder = some (change builder) := by
  obtain ⟨groups, rfl⟩ := reachable.exists_groups
  obtain ⟨more, found, same⟩ := succeeds groups
  rw [found, same]

/-- Something that, of each builder that can be reached, makes another
one, and never fails at that. -/
def Proceeds (build : ConditionBuilder → Option ConditionBuilder) : Prop :=
  ∀ builder, builder.Reachable → ∃ after, build builder = some after ∧ after.Reachable

/-- Whatever goes on in the current group may give back any builder that can be reached. -/
theorem Proceeds.whereGroup (proceeds : Proceeds build) : Proceeds (·.whereGroup? build) := by
  intro builder reachable
  -- What is handed over is the builder after a step with nothing nested in it.
  obtain ⟨after, found, reached⟩ := proceeds _ (reachable.step (.whereGroup []))
  obtain ⟨groups, rfl⟩ := reachable.exists_groups
  refine ⟨after, ?_, reached⟩
  show (ofGroups groups).whereGroup? build = some after
  rw [whereGroup?_ofGroups]
  exact found

/-- So may whatever goes on in a new group. -/
theorem Proceeds.orWhereGroup (proceeds : Proceeds build) : Proceeds (·.orWhereGroup? build) := by
  intro builder reachable
  obtain ⟨after, found, reached⟩ := proceeds _ (reachable.step (.orWhereGroup []))
  obtain ⟨groups, rfl⟩ := reachable.exists_groups
  refine ⟨after, ?_, reached⟩
  show (ofGroups groups).orWhereGroup? build = some after
  rw [orWhereGroup?_ofGroups]
  exact found

end ConditionBuilder

end RecordFilter
