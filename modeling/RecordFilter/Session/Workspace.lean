import RecordFilter.Session.Basic

/-! Several named sessions side by side, of which one is in use, and the steps that work on them. -/

namespace RecordFilter

/-- A step of a single session. -/
inductive SessionStep
  /-- Goes to the collection that the next query filters. -/
  | moveTo (node : NodePath)
  /-- Adds conditions. -/
  | build (step : BuilderStep)
  /-- Splices a finished set into the conditions. -/
  | whereSet (set : ConditionSet)
  /-- Runs the query. -/
  | get
  /-- Runs the query for its first record. -/
  | first
  /-- Runs the query for the number of its records. -/
  | count
  /-- Goes back to the document as loaded. -/
  | reset

/-- What a step answers. -/
inductive Reply
  /-- Nothing. -/
  | nothing
  /-- The result of a query. -/
  | value (result : Json)
  /-- The first record of a result, if there is one. -/
  | record (first : Option Json)
  /-- The number of records. -/
  | number (count : Nat)
  /-- A failure. -/
  | failure (cause : Failure)

namespace Reply

/-- The reply that a result makes, or the failure in its place. -/
def ofResult {α : Type} (reply : α → Reply) : Except Failure α → Reply
  | .ok result => reply result
  | .error cause => .failure cause

end Reply

/-- A session after a step, with the events of the step and its reply. -/
structure Progress where
  /-- The events, in the order they happened. -/
  events : List Event
  /-- The reply. -/
  reply : Reply
  /-- The session after the step. -/
  session : Session

namespace Session

/-- The progress that an answer makes. -/
def progress {α : Type} (reply : α → Reply) (answer : Answer α) : Progress :=
  ⟨answer.events, Reply.ofResult reply answer.result, answer.session⟩

/-- Takes one step. -/
def step [Pattern.Engine] (session : Session) : SessionStep → Progress
  | .moveTo node => ⟨[], .nothing, session.moveTo node⟩
  | .build step => ⟨[], .nothing, session.chain (·.step step)⟩
  | .whereSet set => ⟨[], .nothing, session.whereSet set⟩
  | .get => progress .value session.get
  | .first => progress .record session.first
  | .count => progress .number session.count
  | .reset => ⟨[], .nothing, session.reset⟩

end Session

/-- Sessions in the order they were made, one of which is in use. -/
structure Workspace where
  /-- The sessions with their names. -/
  sessions : List (String × Session)
  /-- The position of the session in use. -/
  position : Nat
  /-- There is a session at the position. -/
  inUse : position < sessions.length

/-- A step of a workspace. -/
inductive WorkspaceStep
  /-- A step of the session in use. -/
  | run (step : SessionStep)
  /-- Makes a new session over the loaded document of the one in use, and uses it. -/
  | fresh (name : String)
  /-- Makes a copy of the session in use, and uses it. -/
  | clone (name : String)
  /-- Uses another session. -/
  | use (name : String)

namespace Workspace

/-- The workspace with a single session. -/
def single (name : String) (session : Session) : Workspace :=
  ⟨[(name, session)], 0, Nat.zero_lt_one⟩

/-- The name of the session in use. -/
def name (workspace : Workspace) : String :=
  (workspace.sessions.get ⟨workspace.position, workspace.inUse⟩).1

/-- The session in use. -/
def active (workspace : Workspace) : Session :=
  (workspace.sessions.get ⟨workspace.position, workspace.inUse⟩).2

/-- The workspace with another state of the session in use. -/
def setActive (workspace : Workspace) (session : Session) : Workspace :=
  ⟨workspace.sessions.set workspace.position (workspace.name, session), workspace.position,
    by simpa using workspace.inUse⟩

/-- The workspace with one more session, which is used from now on. -/
def add (workspace : Workspace) (name : String) (session : Session) : Workspace :=
  ⟨workspace.sessions ++ [(name, session)], workspace.sessions.length, by simp⟩

/-- The workspace with another session in use, if there is one of the name. -/
def use (workspace : Workspace) (name : String) : Workspace :=
  let position := workspace.sessions.findIdx fun session => session.1 == name
  if found : position < workspace.sessions.length then
    ⟨workspace.sessions, position, found⟩
  else workspace

/-- Takes one step, and gives its events and its reply. -/
def step [Pattern.Engine] (workspace : Workspace) : WorkspaceStep → List Event × Reply × Workspace
  | .run step =>
    let progress := workspace.active.step step
    (progress.events, progress.reply, workspace.setActive progress.session)
  | .fresh name => ([], .nothing, workspace.add name workspace.active.fresh)
  | .clone name => ([], .nothing, workspace.add name workspace.active)
  | .use name => ([], .nothing, workspace.use name)

end Workspace

end RecordFilter
