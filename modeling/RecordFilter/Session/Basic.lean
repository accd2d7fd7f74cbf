import RecordFilter.Condition.Builder
import RecordFilter.Document.Stored
import RecordFilter.Evaluation

/-! Query sessions: a document, the node to filter, and the conditions built so far. -/

namespace RecordFilter

/-- A session of queries over one document. -/
structure Session where
  /-- The document. -/
  document : Document
  /-- The path of the collection that the next query filters. -/
  node : NodePath
  /-- The conditions of the next query. -/
  builder : ConditionBuilder

/-- What a query leaves behind: its events, its result, and the session after it. -/
structure Answer (α : Type) where
  /-- The events, in the order they happened. -/
  events : List Event
  /-- The result, unless the query failed. -/
  result : Except Failure α
  /-- The session after the query. -/
  session : Session

namespace Answer

/-- The same answer with another view of its result. -/
def map {α β : Type} (view : α → β) (answer : Answer α) : Answer β :=
  ⟨answer.events, answer.result.map view, answer.session⟩

end Answer

namespace Json

/-- The first record of a collection, if there is one. -/
def firstRecord? : Json → Option Json
  | array (first :: _) => some first
  -- Of an object the first value counts, without its key.
  | object ((_, first) :: _) => some first
  | _ => none

/-- The number of records of a query result, where null has none and any other scalar is one. -/
def resultCount : Json → Nat
  | array items => items.length
  | object members => members.length
  | null => 0
  | _ => 1

end Json

namespace Session

/-- A session over a document, without a node or conditions. -/
def ofDocument (document : Document) : Session :=
  ⟨document, [], ConditionBuilder.new⟩

/-- A session over a value. -/
def ofValue (value : Json) : Session :=
  ofDocument (Document.ofValue value)

/-- The session with another node to filter. -/
def moveTo (session : Session) (node : NodePath) : Session :=
  { session with node }

/-- The session with a changed builder. -/
def chain (session : Session) (change : ConditionBuilder → ConditionBuilder) : Session :=
  { session with builder := change session.builder }

/-- The session with a finished set spliced into its conditions. -/
def whereSet (session : Session) (set : ConditionSet) : Session :=
  session.chain (·.splice set)

/-- The conditions built so far. -/
def conditions (session : Session) : ConditionSet :=
  session.builder.conditions

/-- The value that a query would give, with the events on the way. -/
def query [Pattern.Engine] (session : Session) : Logged Json :=
  match session.document.current.resolve session.node with
  -- A path that leads nowhere is no failure, even under unknown operators.
  | none => ⟨[.nodeNotFound session.node], .ok (.array [])⟩
  | some collection =>
    -- Empty groups are no conditions, so nothing is filtered by them.
    if session.builder.isEmpty then .ok collection
    else collection.evaluate session.conditions

/-- Runs a query: its result becomes the working copy, and node and conditions are cleared; a
failure changes nothing. -/
def get [Pattern.Engine] (session : Session) : Answer Json :=
  let outcome := session.query
  match outcome.result with
  -- The events of the failed query are reported, and nothing else is kept of it.
  | .error failure => ⟨outcome.events, .error failure, session⟩
  | .ok value => ⟨outcome.events, .ok value, ofDocument (session.document.replace value)⟩

/-- Runs a query and gives its first record, if there is one. -/
def first [Pattern.Engine] (session : Session) : Answer (Option Json) :=
  session.get.map Json.firstRecord?

/-- Runs a query and counts its records. -/
def count [Pattern.Engine] (session : Session) : Answer Nat :=
  session.get.map Json.resultCount

/-- Goes back to the document as loaded. -/
def reset (session : Session) : Session :=
  ofDocument session.document.reset

/-- A new session over the same loaded document. -/
def fresh (session : Session) : Session :=
  ofDocument session.document.fresh

end Session

end RecordFilter
