import Mathlib.Data.List.ReduceOption
import RecordFilter.Proofs.Condition.Building

/-! A program of builder steps, however nested, builds the row of
its conditions cut at its breaks. -/

namespace RecordFilter

mutual

/-- What a step says in a row: the conditions that it adds, and nothing
for a break between groups. -/
def BuilderStep.row : BuilderStep → List (Option Condition)
  | .andWhere condition => [some condition]
  | .orWhere condition => [none, some condition]
  | .whereOperator key operator operand => [some ⟨key, operator.token, operand⟩]
  | .whereIn key values => [some ⟨key, "in", .array values⟩]
  | .whereNotIn key values => [some ⟨key, "notin", .array values⟩]
  | .whereNull key => [some ⟨key, "null", .null⟩]
  | .whereNotNull key => [some ⟨key, "notnull", .null⟩]
  | .whereStartsWith key operand => [some ⟨key, "startswith", operand⟩]
  | .whereEndsWith key operand => [some ⟨key, "endswith", operand⟩]
  | .whereMatch key operand => [some ⟨key, "match", operand⟩]
  | .whereContains key operand => [some ⟨key, "contains", operand⟩]
  -- The steps of a group stand in the row like all others.
  | .whereGroup steps => BuilderStep.rows steps
  | .orWhereGroup steps => none :: BuilderStep.rows steps

/-- What several steps say, one row behind the other. -/
def BuilderStep.rows : List BuilderStep → List (Option Condition)
  | [] => []
  | first :: rest => first.row ++ BuilderStep.rows rest

end

/-- The pieces of a row between its breaks, of which there is one more than there are breaks. -/
def piecesOf (row : List (Option Condition)) : List ConditionGroup :=
  (row.splitOnP Option.isNone).map List.reduceOption

section Pieces

variable {row : List (Option Condition)} {condition : Condition}

/-- A row of nothing is one empty piece. -/
@[simp] theorem piecesOf_nil : piecesOf [] = [[]] := rfl

/-- A break at the start cuts off an empty piece. -/
@[simp] theorem piecesOf_break : piecesOf (none :: row) = [] :: piecesOf row := by
  simp [piecesOf, List.splitOnP_cons_eq_if_modifyHead]

/-- A condition at the start heads the first piece. -/
@[simp] theorem piecesOf_condition :
    piecesOf (some condition :: row) = (piecesOf row).modifyHead (condition :: ·) := by
  -- The row of a condition is cut where the rest is, and the first piece takes the condition in.
  simp only [piecesOf, List.splitOnP_cons_eq_if_modifyHead, Option.isNone_some, Bool.false_eq_true, if_false]
  cases row.splitOnP Option.isNone with
  | nil => rfl
  | cons piece more => simp

/-- However a row is cut, there is a piece of it. -/
theorem piecesOf_ne_nil (row : List (Option Condition)) : piecesOf row ≠ [] := by
  simp [piecesOf, List.splitOnP_ne_nil]

/-- A break at the end of a row opens an empty piece. -/
theorem piecesOf_append_break (row : List (Option Condition)) :
    piecesOf (row ++ [none]) = piecesOf row ++ [[]] := by
  induction row with
  | nil => rfl
  | cons mark rest ih =>
    cases mark with
    | none => simp [ih]
    | some condition =>
      -- There is a first piece to take the condition in, on either side.
      obtain ⟨piece, more, pieces⟩ := List.exists_cons_of_ne_nil (piecesOf_ne_nil rest)
      simp [ih, pieces]

/-- A condition at the end of a row joins the last piece. -/
theorem piecesOf_append_condition {pieces : List ConditionGroup} {last : ConditionGroup}
    (cutRow : piecesOf row = pieces ++ [last]) :
    piecesOf (row ++ [some condition]) = pieces ++ [last ++ [condition]] := by
  induction row generalizing pieces last with
  | nil =>
    -- An empty row is one empty piece.
    obtain ⟨rfl, rfl⟩ : pieces = [] ∧ last = [] := by
      cases pieces <;> simp_all
    rfl
  | cons mark rest ih =>
    cases mark with
    | none =>
      rw [piecesOf_break] at cutRow
      -- The first piece is the empty one in front of the break, and so not the last.
      cases pieces with
      | nil => exact absurd (List.cons.inj cutRow).2 (piecesOf_ne_nil rest)
      | cons piece more =>
        obtain ⟨rfl, behind⟩ := List.cons.inj cutRow
        simp [ih behind]
    | some first =>
      rw [piecesOf_condition] at cutRow
      obtain ⟨piece, more, parts⟩ := List.exists_cons_of_ne_nil (piecesOf_ne_nil rest)
      rw [parts, List.modifyHead_cons] at cutRow
      -- The first condition joins the first piece, which may be the last one as well.
      cases pieces with
      | nil =>
        obtain ⟨rfl, rfl⟩ := List.cons.inj cutRow
        have joined := ih (show piecesOf rest = [] ++ [piece] from parts)
        simp [joined]
      | cons other pieces =>
        obtain ⟨rfl, rfl⟩ := List.cons.inj cutRow
        have joined := ih (show piecesOf rest = (piece :: pieces) ++ [last] from parts)
        simp [joined]

/-- Cutting a row loses no condition and keeps their order. -/
theorem flatten_piecesOf (row : List (Option Condition)) :
    (piecesOf row).flatten = row.reduceOption := by
  induction row with
  | nil => rfl
  | cons mark rest ih =>
    cases mark with
    | none => simpa using ih
    | some condition =>
      obtain ⟨piece, more, pieces⟩ := List.exists_cons_of_ne_nil (piecesOf_ne_nil rest)
      rw [pieces] at ih
      simpa [pieces] using ih

end Pieces

/-- The groups that hold conditions. -/
def inhabitedGroups (groups : List ConditionGroup) : List ConditionGroup :=
  groups.filter fun group => !group.isEmpty

/--
Groups that a builder has reached by the steps of a row. Breaks and groups can leave the builder
with other empty groups than the row has empty pieces, but the last group is always the last piece.
-/
inductive Reached : List ConditionGroup → List (Option Condition) → Prop
  /-- Nothing has been said, and no group is open. -/
  | fresh : Reached [] []
  /-- The last piece of the row is the group that conditions join. -/
  | current {front pieces : List ConditionGroup} {last : ConditionGroup}
      {row : List (Option Condition)} (same : inhabitedGroups front = inhabitedGroups pieces)
      (cutRow : piecesOf row = pieces ++ [last]) : Reached (front ++ [last]) row

namespace Reached

open ConditionBuilder

variable {groups : List ConditionGroup} {row : List (Option Condition)}

/-- A new group is a break. -/
theorem openGroup (reached : Reached groups row) : Reached (groups ++ [[]]) (row ++ [none]) := by
  have cutRow := piecesOf_append_break row
  cases reached with
  | fresh => exact .current (show inhabitedGroups [] = inhabitedGroups [[]] from rfl) cutRow
  | @current front pieces last row same cutBefore =>
    rw [cutBefore] at cutRow
    refine .current ?_ cutRow
    simp only [inhabitedGroups, List.filter_append] at same ⊢
    rw [same]

/-- Where no group is open yet, the first one is opened without a break. -/
theorem ensureGroup (reached : Reached groups row) :
    ∃ front last, (ofGroups groups).ensureGroup = ofGroups (front ++ [last]) ∧
      Reached (front ++ [last]) row := by
  cases reached with
  | fresh =>
    exact ⟨[], [], rfl, .current (show inhabitedGroups [] = inhabitedGroups [] from rfl) piecesOf_nil⟩
  | @current front pieces last row same cutRow =>
    exact ⟨front, last, ensureGroup_ofGroups_append, .current same cutRow⟩

/-- A condition joins the last group. -/
theorem push {front : List ConditionGroup} {last : ConditionGroup}
    (reached : Reached (front ++ [last]) row) (condition : Condition) :
    Reached (front ++ [last ++ [condition]]) (row ++ [some condition]) := by
  -- There is a last group, so something has been reached.
  generalize built : front ++ [last] = groups at reached
  cases reached with
  | fresh => simp at built
  | current same cutRow =>
    obtain ⟨rfl, ends⟩ := List.append_inj' built rfl
    obtain rfl := List.singleton_inj.mp ends
    exact .current same (piecesOf_append_condition cutRow)

/-- A condition for the current group is one more condition in the row. -/
theorem andWhere (reached : Reached groups row) (condition : Condition) :
    ∃ more, (ofGroups groups).andWhere condition = ofGroups more ∧
      Reached more (row ++ [some condition]) := by
  obtain ⟨front, last, ensured, reached⟩ := reached.ensureGroup
  exact ⟨_, by rw [ConditionBuilder.andWhere, ensured, push_ofGroups_append], reached.push condition⟩

/-- A condition for a new group is a break and a condition in the row. -/
theorem orWhere (reached : Reached groups row) (condition : Condition) :
    ∃ more, (ofGroups groups).orWhere condition = ofGroups more ∧
      Reached more (row ++ [none, some condition]) := by
  have opened := reached.openGroup.push condition
  rw [List.append_assoc] at opened
  exact ⟨_, orWhere_ofGroups, opened⟩

-- A step of any kind is one of the two, or leads over the steps of a group that it opens first.

mutual

/-- What a step does to a builder is what it says in the row. -/
theorem step {groups : List ConditionGroup} {row : List (Option Condition)}
    (reached : Reached groups row) (step : BuilderStep) :
    ∃ more, (ofGroups groups).step step = ofGroups more ∧ Reached more (row ++ step.row) := by
  cases step with
  | andWhere condition => exact reached.andWhere condition
  | orWhere condition => exact reached.orWhere condition
  | whereOperator | whereIn | whereNotIn | whereNull | whereNotNull | whereStartsWith
  | whereEndsWith | whereMatch | whereContains => exact reached.andWhere _
  | whereGroup steps =>
    obtain ⟨front, last, ensured, reached⟩ := reached.ensureGroup
    obtain ⟨more, built, reached⟩ := reached.steps steps
    exact ⟨more, by rw [ConditionBuilder.step, whereGroup, ensured, built], reached⟩
  | orWhereGroup steps =>
    obtain ⟨more, built, reached⟩ := reached.openGroup.steps steps
    rw [List.append_assoc] at reached
    exact ⟨more, by rw [ConditionBuilder.step, orWhereGroup, openGroup_ofGroups, built], reached⟩

/-- What several steps do to a builder is what they say in the row. -/
theorem steps {groups : List ConditionGroup} {row : List (Option Condition)}
    (reached : Reached groups row) (steps : List BuilderStep) :
    ∃ more, (ofGroups groups).steps steps = ofGroups more ∧
      Reached more (row ++ BuilderStep.rows steps) := by
  cases steps with
  | nil => exact ⟨groups, rfl, by simpa [BuilderStep.rows] using reached⟩
  | cons first rest =>
    obtain ⟨between, built, reached⟩ := reached.step first
    obtain ⟨more, builtRest, reached⟩ := reached.steps rest
    rw [List.append_assoc] at reached
    exact ⟨more, by rw [ConditionBuilder.steps, built, builtRest], reached⟩

end

/-- Without its empty pieces a row is the groups that hold conditions. -/
theorem inhabited (reached : Reached groups row) :
    inhabitedGroups groups = inhabitedGroups (piecesOf row) := by
  cases reached with
  | fresh => rfl
  | current same cutRow =>
    simp only [inhabitedGroups, cutRow, List.filter_append] at same ⊢
    rw [same]

end Reached

/-- Leaving out empty groups loses no condition. -/
theorem flatten_inhabitedGroups (groups : List ConditionGroup) :
    (inhabitedGroups groups).flatten = groups.flatten :=
  List.flatten_filter_not_isEmpty

namespace ConditionBuilder

/--
A program of steps builds its row, cut at the breaks and without the empty pieces. So the set holds
the conditions of the row in their order, and the builder is empty exactly if there are none.
-/
theorem build_steps (program : List BuilderStep) :
    (new.steps program).build.groups = inhabitedGroups (piecesOf (BuilderStep.rows program)) ∧
    (new.steps program).build.conditions = (BuilderStep.rows program).reduceOption ∧
    ((new.steps program).isEmpty = true ↔ (BuilderStep.rows program).reduceOption = []) := by
  obtain ⟨groups, built, reached⟩ := Reached.fresh.steps program
  rw [List.nil_append] at reached
  rw [new_eq_ofGroups, built]
  -- The finished set holds the groups of the builder that are not empty.
  have finished : (ofGroups groups).build.groups = inhabitedGroups groups := rfl
  have conditions : groups.flatten = (BuilderStep.rows program).reduceOption := by
    rw [← flatten_inhabitedGroups, reached.inhabited, flatten_inhabitedGroups, flatten_piecesOf]
  refine ⟨finished.trans reached.inhabited, ?_, ?_⟩
  · rw [ConditionSet.conditions, finished, flatten_inhabitedGroups, conditions]
  · rw [← conditions, isEmpty, ConditionSet.isEmpty_iff]
    rfl

end ConditionBuilder

end RecordFilter
