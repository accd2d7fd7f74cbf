import RecordFilter.Expression.Printer
import RecordFilter.Failure
import RecordFilter.Path

/-! What queries report while they run: events with a level and a line
of text, and results that carry them. -/

namespace RecordFilter

/-- How important an event is. -/
inductive Level
  /-- Something to be mended by the user. -/
  | warn
  /-- A summary of what was done. -/
  | debug
  /-- A single step. -/
  | trace
deriving DecidableEq

/-- Something that happens while a document is loaded or filtered. -/
inductive Event
  /-- A pattern does not compile, for a reason that may be told. -/
  | patternNeverMatches (source : List Char) (complaint : Option String)
  /-- A record does not satisfy the conditions. -/
  | rejected (record : Json)
  /-- The collection to filter has no records. -/
  | scalarCollection
  /-- So many of all records satisfy the conditions. -/
  | matched (kept total : Nat) (conditions : ConditionSet)
  /-- The path of the collection leads nowhere. -/
  | nodeNotFound (node : NodePath)
  /-- A file has been read. -/
  | loaded (size : Nat) (path : String) (format : Format)

namespace Level

/-- The name of a level. -/
def name : Level → String
  | warn => "WARN"
  | debug => "DEBUG"
  | trace => "TRACE"

end Level

namespace Event

/-- The level of an event. -/
def level : Event → Level
  | patternNeverMatches _ _ => .warn
  | rejected _ => .trace
  | scalarCollection => .debug
  | matched _ _ _ => .debug
  | nodeNotFound _ => .debug
  | loaded _ _ _ => .debug

/-- A natural number as text. -/
def countText (count : Nat) : String :=
  String.ofList (digits count)

/-- The text of an event. -/
def text : Event → String
  | patternNeverMatches source complaint =>
    "pattern " ++ String.ofList (Text.quoted source) ++ " never matches" ++
      (complaint.map (": " ++ ·)).getD ""
  | rejected record => "rejected " ++ record.compact
  | scalarCollection => "collection is a scalar, nothing to filter"
  | matched kept total conditions =>
    countText kept ++ " of " ++ countText total ++ " records matched \x60" ++ conditions.display ++
      "\x60"
  | nodeNotFound node => "node path \x60" ++ node.text ++ "\x60 not found"
  | loaded size path format =>
    "read " ++ countText size ++ " bytes from " ++ path ++ " as " ++ format.title

/-- The line of an event: its level and its text. -/
def line (event : Event) : String :=
  event.level.name ++ " " ++ event.text

end Event

/-- A result or a failure, with the events on the way to it. -/
structure Logged (α : Type) where
  /-- The events, in the order they happened. -/
  events : List Event
  /-- The result, unless there was a failure. -/
  result : Except Failure α

namespace Logged

/-- A result without events. -/
def ok {α : Type} (value : α) : Logged α := ⟨[], .ok value⟩

/-- A failure without events. -/
def fail {α : Type} (failure : Failure) : Logged α := ⟨[], .error failure⟩

/-- Events without a result. -/
def emit (events : List Event) : Logged Unit := ⟨events, .ok ()⟩

/-- One step after another, the second only if the first succeeds. -/
def andThen {α β : Type} (first : Logged α) (next : α → Logged β) : Logged β :=
  match first.result with
  | .error failure => ⟨first.events, .error failure⟩
  | .ok value =>
    let second := next value
    ⟨first.events ++ second.events, second.result⟩

instance : Monad Logged where
  pure := ok
  bind := andThen

end Logged

end RecordFilter
