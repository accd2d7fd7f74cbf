import RecordFilter.Rendering

/-! Writing to something that may fail: it takes a number of bytes, and then refuses the rest. -/

namespace RecordFilter

/-- How a writer fails once it is full. -/
inductive WriterFault
  /-- Nobody reads any more. -/
  | brokenPipe
  /-- Anything else. -/
  | other
deriving DecidableEq

/-- A writer: what it has taken, and how much more it takes before it fails. -/
structure Writer where
  /-- The bytes taken so far. -/
  taken : List UInt8
  /-- The number of bytes it still takes, or no limit. -/
  room : Option Nat
  /-- How it fails. -/
  fault : WriterFault

namespace Writer

/-- A writer that has taken nothing yet. -/
def new (room : Option Nat) (fault : WriterFault) : Writer := ⟨[], room, fault⟩

/-- The bytes of a text. -/
def bytesOf (text : List Char) : List UInt8 :=
  text.flatMap String.utf8EncodeChar

/-- Writes a piece of text as far as there is room, and tells whether all of it was taken. -/
def put (writer : Writer) (text : List Char) : Writer × Bool :=
  let bytes := bytesOf text
  match writer.room with
  | none => ({ writer with taken := writer.taken ++ bytes }, true)
  | some room =>
    -- A writer may take a part of what it is given.
    ({ writer with taken := writer.taken ++ bytes.take room, room := some (room - bytes.length) },
      bytes.length ≤ room)

/-- Writes pieces one after another until one of them is refused,
and tells whether all were taken. -/
def putAll (writer : Writer) : List (List Char) → Writer × Bool
  | [] => (writer, true)
  | piece :: rest =>
    match writer.put piece with
    | (later, true) => later.putAll rest
    | (later, false) => (later, false)

/-- Why showing a document fails. -/
inductive Refusal
  /-- The writer failed, and not because nobody reads any more. -/
  | notWritten
deriving DecidableEq

/-- The message of a refusal. -/
def Refusal.message : Refusal → String
  | notWritten => "write colorized JSON to stdout"

/-- Writes a document; a reader that has gone away is no failure. -/
def putDocument (writer : Writer) (style : Style) (value : Json) : Writer × Except Refusal Unit :=
  let (later, complete) := writer.putAll (style.documentPieces value)
  (later,
    if complete || later.fault == .brokenPipe then .ok () else .error .notWritten)

end Writer

end RecordFilter
