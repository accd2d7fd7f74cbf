import RecordFilter.Proofs.Condition.Flattening

/-! Whatever has led to a builder, conditions join its last group, and
a finished set goes in behind that. -/

namespace RecordFilter

section Rows

variable {row : List (Option Condition)}

/-- Conditions without a break between them are one piece. -/
theorem piecesOf_conditions (piece : ConditionGroup) : piecesOf (piece.map some) = [piece] := by
  induction piece with
  | nil => rfl
  | cons condition rest ih => simp [ih]

/-- A break cuts the conditions in front of it off as one piece. -/
theorem piecesOf_conditions_break (piece : ConditionGroup) :
    piecesOf (piece.map some ++ none :: row) = piece :: piecesOf row := by
  induction piece with
  | nil => exact piecesOf_break
  | cons condition rest ih => simp [ih]

/-- Any groups at all are the pieces of some row. -/
theorem exists_row {pieces : List ConditionGroup} (some_ : pieces ≠ []) :
    ∃ row, piecesOf row = pieces := by
  induction pieces with
  | nil => contradiction
  | cons piece more ih =>
    -- Behind the last piece there is no break, and behind every other one there is.
    by_cases last : more = []
    · exact ⟨piece.map some, by rw [piecesOf_conditions, last]⟩
    · obtain ⟨row, pieces⟩ := ih last
      exact ⟨piece.map some ++ none :: row, by rw [piecesOf_conditions_break, pieces]⟩

end Rows

namespace ConditionSet

variable {set : ConditionSet}

/-- Leaving out empty groups once leaves none to be left out. -/
theorem withoutEmpty_withoutEmpty : set.withoutEmpty.withoutEmpty = set.withoutEmpty := by
  simp [withoutEmpty, List.filter_filter]

/-- A set without conditions is left with no groups at all. -/
theorem withoutEmpty_of_isEmpty (unconditional : set.isEmpty = true) :
    set.withoutEmpty.groups = [] := by
  simpa [withoutEmpty, isEmpty] using unconditional

end ConditionSet

namespace ConditionBuilder

variable {builder : ConditionBuilder} {set : ConditionSet}

/-- A builder that steps and finished sets have led to, in whatever order. -/
inductive Reachable : ConditionBuilder → Prop
  /-- The builder without conditions. -/
  | new : Reachable new
  /-- The builder after a step, which may hold further steps of its own. -/
  | step {builder : ConditionBuilder} (before : Reachable builder) (step : BuilderStep) :
      Reachable (builder.step step)
  /-- The builder after a finished set has been spliced in. -/
  | splice {builder : ConditionBuilder} (before : Reachable builder) (set : ConditionSet) :
      Reachable (builder.splice set)

/-- A step opens groups behind all others, or adds to the last one. -/
theorem exists_step_ofGroups (groups : List ConditionGroup) (step : BuilderStep) :
    ∃ more, (ofGroups groups).step step = ofGroups more := by
  -- The groups are those of some row, so the step only makes the row longer.
  obtain ⟨row, reached⟩ : ∃ row, Reached groups row := by
    rcases List.eq_nil_or_concat groups with rfl | ⟨front, last, rfl⟩
    · exact ⟨[], .fresh⟩
    · obtain ⟨row, pieces⟩ := exists_row (List.concat_ne_nil last front)
      exact ⟨row, by simpa using Reached.current rfl pieces⟩
  obtain ⟨more, built, _⟩ := reached.step step
  exact ⟨more, built⟩

/-- The current group of every builder is the last of its groups. -/
theorem Reachable.exists_groups (reachable : builder.Reachable) :
    ∃ groups, builder = ofGroups groups := by
  -- Both ways of going on lead from a builder made of groups to another one.
  induction reachable with
  | new => exact ⟨[], rfl⟩
  | step _ step ih =>
    obtain ⟨groups, rfl⟩ := ih
    exact exists_step_ofGroups groups step
  | splice _ set ih =>
    obtain ⟨groups, rfl⟩ := ih
    exact ⟨_, splice_ofGroups groups set⟩

/-- Where no group holds conditions, what joins the last one is all that the groups hold. -/
theorem inhabitedGroups_joinLast {groups : List ConditionGroup}
    (none_ : inhabitedGroups groups = []) (conditions : List Condition) :
    inhabitedGroups (joinLast groups conditions) = inhabitedGroups [conditions] := by
  rcases List.eq_nil_or_concat' groups with rfl | ⟨front, last, rfl⟩
  · cases conditions <;> rfl
  · -- The groups in front hold nothing, and neither does the one that is joined.
    obtain ⟨frontEmpty, rfl⟩ : inhabitedGroups front = [] ∧ last = [] := by
      simpa [inhabitedGroups] using none_
    rw [joinLast_append, List.nil_append, inhabitedGroups, List.filter_append]
    exact congrArg (· ++ inhabitedGroups [conditions]) frontEmpty

/-- A builder without conditions takes over those of a set, whatever empty groups it has itself. -/
theorem splice_of_isEmpty (reachable : builder.Reachable) (unconditional : builder.isEmpty = true) :
    (builder.splice set).conditions.withoutEmpty = set.withoutEmpty := by
  obtain ⟨groups, rfl⟩ := reachable.exists_groups
  -- The builder may have groups, but none of them holds a condition.
  have none_ : inhabitedGroups groups = [] := ConditionSet.withoutEmpty_of_isEmpty unconditional
  have taken : inhabitedGroups (spliced groups set.groups) = inhabitedGroups set.groups := by
    cases set.groups with
    | nil => exact none_
    | cons first rest =>
      -- The first group of the set joins an empty one, and the others follow it.
      have joined := inhabitedGroups_joinLast none_ first
      simp only [inhabitedGroups] at joined ⊢
      simp only [spliced, List.filter_append, joined, List.filter_filter, Bool.and_self]
      rw [← List.filter_append, List.singleton_append]
  rw [splice_ofGroups]
  exact congrArg ConditionSet.mk taken

end ConditionBuilder

end RecordFilter
