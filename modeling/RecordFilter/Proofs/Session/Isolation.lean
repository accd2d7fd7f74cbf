import RecordFilter.Pattern.Standard
import RecordFilter.Session.Workspace

/-! Sessions over one loaded value: none changes the value or another
session, and each can start anew. -/

namespace RecordFilter

namespace Session

variable {session : Session}

/-- The session without a note of the file that its document came from. -/
def withoutSource (session : Session) : Session :=
  { session with document := { session.document with source := none } }

/-- After a reset nothing is left of a session but its loaded value. -/
theorem reset_withoutSource : session.reset.withoutSource = ofValue session.document.base := rfl

/-- Nothing but the loaded value is handed on to a new session. -/
theorem fresh_withoutSource : session.fresh.withoutSource = ofValue session.document.base := rfl

variable [Pattern.Engine]

/-- A query keeps the loaded value, whether it succeeds or fails. -/
theorem get_base : session.get.session.document.base = session.document.base := by
  -- A query fails and leaves everything, or replaces the working copy alone.
  simp only [get]
  split <;> rfl

/-- No step changes the loaded value. -/
theorem step_base (step : SessionStep) :
    (session.step step).session.document.base = session.document.base := by
  cases step with
  | moveTo | build | whereSet | reset => rfl
  | get | first | count => exact get_base

/-- A query does not ask where the document came from, and leaves that as it was. -/
theorem get_withoutSource :
    session.withoutSource.get =
      ⟨session.get.events, session.get.result, session.get.session.withoutSource⟩ := by
  have same : session.withoutSource.query = session.query := rfl
  simp only [get, same]
  split <;> rfl

/-- No step asks where the document came from. -/
theorem step_withoutSource (step : SessionStep) :
    session.withoutSource.step step =
      ⟨(session.step step).events, (session.step step).reply,
        (session.step step).session.withoutSource⟩ := by
  -- Queries ask more than the other steps, but not for the file.
  cases step with
  | moveTo | build | whereSet | reset => rfl
  | get | first | count =>
    simp only [Session.step, progress, first, count, Answer.map, get_withoutSource]

end Session

/-- What can be seen after a step: what it reported and answered, and the session in use. -/
structure Observation where
  /-- The events of the step. -/
  events : List Event
  /-- The reply to the step. -/
  reply : Reply
  /-- The name of the session in use. -/
  name : String
  /-- The node of the session in use. -/
  node : NodePath
  /-- The conditions of the session in use. -/
  conditions : ConditionSet
  /-- The document that the session in use works on. -/
  current : Json

namespace Workspace

/-- The workspace after several steps. -/
def run [Pattern.Engine] (workspace : Workspace) : List WorkspaceStep → Workspace
  | [] => workspace
  | step :: rest => (workspace.step step).2.2.run rest

/-- What can be seen after each of several steps. -/
def observe [Pattern.Engine] (workspace : Workspace) : List WorkspaceStep → List Observation
  | [] => []
  | step :: rest =>
    let (events, reply, after) := workspace.step step
    ⟨events, reply, after.name, after.active.node, after.active.conditions,
      after.active.document.current⟩ :: after.observe rest

/-- Whether a step works on the session at a position, instead of making or choosing one. -/
def Touches (workspace : Workspace) (step : WorkspaceStep) (position : Nat) : Prop :=
  (∃ inner, step = .run inner) ∧ position = workspace.position

/-- Whether all sessions are over one loaded value. -/
def AllOver (value : Json) (workspace : Workspace) : Prop :=
  ∀ entry ∈ workspace.sessions, entry.2.document.base = value

variable {workspace : Workspace} {value : Json} {name : String} {session : Session}

/-- The session in use is one of the sessions, under its name. -/
theorem active_mem : (workspace.name, workspace.active) ∈ workspace.sessions :=
  List.get_mem _ _

/-- A session over the value may take the place of the one in use. -/
theorem AllOver.setActive (all : AllOver value workspace)
    (base : session.document.base = value) : AllOver value (workspace.setActive session) := by
  intro entry inside
  -- An entry is one that was there already, or the one that was put in.
  obtain old | rfl := List.mem_or_eq_of_mem_set inside
  · exact all entry old
  · exact base

/-- A session over the value may be added. -/
theorem AllOver.add (all : AllOver value workspace) (base : session.document.base = value) :
    AllOver value (workspace.add name session) := by
  intro entry inside
  obtain old | new := List.mem_append.mp inside
  · exact all entry old
  · rw [List.mem_singleton.mp new]
    exact base

/-- A session by another name is used with all sessions as they are. -/
theorem use_sessions : (workspace.use name).sessions = workspace.sessions := by
  simp only [use]
  split <;> rfl

/-- The workspace without a note of the files that the documents came from. -/
def withoutSources (workspace : Workspace) : Workspace :=
  ⟨workspace.sessions.map fun (name, session) => (name, session.withoutSource), workspace.position,
    by simpa using workspace.inUse⟩

/-- A workspace is its sessions and the position of the one in use. -/
theorem eq_of_parts {left right : Workspace} (sessions : left.sessions = right.sessions)
    (position : left.position = right.position) : left = right := by
  cases left
  cases right
  simp_all

/-- The session in use keeps its name. -/
theorem name_withoutSources : workspace.withoutSources.name = workspace.name := by
  simp [name, withoutSources]

/-- The session in use is the one that was, without its note. -/
theorem active_withoutSources :
    workspace.withoutSources.active = workspace.active.withoutSource := by
  simp [active, withoutSources]

/-- It may lose its note before or after it is put in place. -/
theorem setActive_withoutSources :
    workspace.withoutSources.setActive session.withoutSource =
      (workspace.setActive session).withoutSources := by
  refine eq_of_parts ?_ rfl
  simp only [setActive, name_withoutSources]
  simp only [withoutSources, List.map_set]

/-- So may a session that is added. -/
theorem add_withoutSources :
    workspace.withoutSources.add name session.withoutSource =
      (workspace.add name session).withoutSources := by
  refine eq_of_parts ?_ ?_ <;> simp [add, withoutSources]

/-- Sessions are looked up by their names, which have nothing to do with files. -/
theorem use_withoutSources :
    workspace.withoutSources.use name = (workspace.use name).withoutSources := by
  have position : workspace.withoutSources.sessions.findIdx (fun entry => entry.1 == name) =
      workspace.sessions.findIdx (fun entry => entry.1 == name) := by
    rw [withoutSources, List.findIdx_map]
    rfl
  have length : workspace.withoutSources.sessions.length = workspace.sessions.length :=
    List.length_map _
  -- The session by this name has the same position, or is missing on both sides.
  simp only [use, position, length]
  split <;> rfl

section Engine

variable [Pattern.Engine]

/-- Every step keeps all sessions over the loaded value. -/
theorem AllOver.step (all : AllOver value workspace) (step : WorkspaceStep) :
    AllOver value (workspace.step step).2.2 := by
  -- The session in use is over the value, and so is what a step makes of it.
  have active : workspace.active.document.base = value := all _ active_mem
  -- A step replaces the session in use, adds one over its value, or chooses another one.
  cases step with
  | run step => exact all.setActive ((Session.step_base step).trans active)
  | fresh name => exact all.add active
  | clone name => exact all.add active
  | use name =>
    intro entry inside
    exact all entry (use_sessions ▸ inside)

/-- Every run of steps keeps all sessions over the loaded value. -/
theorem AllOver.run (all : AllOver value workspace) (steps : List WorkspaceStep) :
    AllOver value (workspace.run steps) := by
  -- The induction is on the steps, each of which keeps the value.
  induction steps generalizing workspace with
  | nil => exact all
  | cons step rest ih => exact ih (all.step step)

/-- A session that a step does not work on stays as it is. -/
theorem sessions_step {step : WorkspaceStep} {position : Nat}
    (there : position < workspace.sessions.length) (untouched : ¬workspace.Touches step position) :
    (workspace.step step).2.2.sessions[position]? = workspace.sessions[position]? := by
  cases step with
  | run inner =>
    -- Only the session in use is replaced.
    have other : workspace.position ≠ position := fun same => untouched ⟨⟨inner, rfl⟩, same.symm⟩
    exact List.getElem?_set_ne other
  | fresh name | clone name => exact List.getElem?_append_left there
  | use name => exact congrArg (·[position]?) use_sessions

/-- No step asks where the documents came from. -/
theorem step_withoutSources (step : WorkspaceStep) :
    workspace.withoutSources.step step =
      ((workspace.step step).1, (workspace.step step).2.1,
        (workspace.step step).2.2.withoutSources) := by
  cases step with
  | run step =>
    simp only [Workspace.step, active_withoutSources, Session.step_withoutSource,
      setActive_withoutSources]
  | fresh name =>
    have handed : workspace.active.withoutSource.fresh = workspace.active.fresh.withoutSource := rfl
    simp only [Workspace.step, active_withoutSources, handed, add_withoutSources]
  | clone name => simp only [Workspace.step, active_withoutSources, add_withoutSources]
  | use name => simp only [Workspace.step, use_withoutSources]

/-- Where the documents came from cannot be seen in any run. -/
theorem observe_withoutSources (steps : List WorkspaceStep) :
    workspace.withoutSources.observe steps = workspace.observe steps := by
  induction steps generalizing workspace with
  | nil => rfl
  | cons step rest ih =>
    -- The first step is seen alike, and leaves workspaces that differ in their notes alone.
    simp only [observe, step_withoutSources, ih, name_withoutSources, active_withoutSources]
    rfl

/-- A session that holds nothing but a loaded value is seen as a new session over the value. -/
theorem observe_single (steps : List WorkspaceStep)
    (bare : session.withoutSource = Session.ofValue value) :
    (single name session).observe steps = (single name (Session.ofValue value)).observe steps := by
  -- Both are seen as the same workspace without notes.
  rw [← observe_withoutSources, ← bare]
  rfl

/--
However many sessions are made from a loaded value and whatever is done with them, all keep the
value, a step changes only the session that it works on, and after a reset, or as the start of a
new session, each is seen in every run as a new session over the value.
-/
theorem run_keeps_loaded (source : Option String) (value : Json) (name : String)
    (steps : List WorkspaceStep) :
    let workspace := (single name (Session.ofDocument ⟨source, value, none⟩)).run steps
    (∀ entry ∈ workspace.sessions, entry.2.document.base = value) ∧
    (∀ step position, position < workspace.sessions.length → ¬workspace.Touches step position →
      (workspace.step step).2.2.sessions[position]? = workspace.sessions[position]?) ∧
    (∀ entry ∈ workspace.sessions, ∀ newName continuation,
      (single newName entry.2.reset).observe continuation =
          (single newName (Session.ofValue value)).observe continuation ∧
        (single newName entry.2.fresh).observe continuation =
          (single newName (Session.ofValue value)).observe continuation) := by
  have start : AllOver value (single name (Session.ofDocument ⟨source, value, none⟩)) := by
    intro entry inside
    rw [List.mem_singleton.mp inside]
    rfl
  have all := start.run steps
  refine ⟨all, fun step position there untouched => sessions_step there untouched, ?_⟩
  -- Whatever a session went through, a reset leaves the loaded value, and that is still the same.
  intro entry inside newName continuation
  have base := all entry inside
  exact ⟨observe_single continuation (Session.reset_withoutSource.trans (congrArg _ base)),
    observe_single continuation (Session.fresh_withoutSource.trans (congrArg _ base))⟩

end Engine

/-- A query that fails for want of an operator, and a new session beside it that succeeds. -/
def failureBesideSuccess : List WorkspaceStep :=
  [.run (.build (.orWhere ⟨"a", "~=", .null⟩)), .run .get, .fresh "other", .run .count]

/-- The session that failed keeps its conditions until it starts anew,
and the other one stays as it is. -/
theorem run_keeps_loaded_failed :
    let workspace := (single "main" (Session.ofDocument ⟨some "a.json", .array [.null], none⟩)).run
      failureBesideSuccess
    let failed := (Session.ofDocument ⟨some "a.json", .array [.null], none⟩).chain
      (·.orWhere ⟨"a", "~=", .null⟩)
    ("main", failed) ∈ workspace.sessions ∧ failed.document.base = .array [.null] ∧
      0 < workspace.sessions.length ∧ ¬workspace.Touches (.run .reset) 0 ∧
      (workspace.step (.run .reset)).2.2.sessions[0]? = workspace.sessions[0]? ∧
      (single "again" failed.reset).observe [.run .first] =
        (single "again" (Session.ofValue (.array [.null]))).observe [.run .first] := by
  intro workspace failed
  obtain ⟨base, others, anew⟩ :=
    run_keeps_loaded (some "a.json") (.array [.null]) "main" failureBesideSuccess
  have inside : ("main", failed) ∈ workspace.sessions := List.mem_cons_self
  have there : 0 < workspace.sessions.length := Nat.zero_lt_succ _
  -- The session that was made last is in use.
  have untouched : ¬workspace.Touches (.run .reset) 0 := fun touched => absurd touched.2 (by decide)
  exact ⟨inside, base _ inside, there, untouched, others _ 0 there untouched,
    (anew _ inside "again" [.run .first]).1⟩

end Workspace

end RecordFilter
