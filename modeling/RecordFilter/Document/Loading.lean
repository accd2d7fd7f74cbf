import RecordFilter.Document.Decoding
import RecordFilter.Document.Files
import RecordFilter.Document.Stored
import RecordFilter.Event

/-! Loading documents from files: the format is settled first, then
the file is found, read and decoded. -/

namespace RecordFilter

/-- Decodes bytes in a format, or tells that they are malformed. -/
def Format.load (format : Format) (bytes : ByteArray) : Except Failure Json :=
  match format.decode bytes with
  | some value => .ok value
  | none => .error (.malformed format)

namespace Document

/-- The value of the file at a path in a given format, from what is found there. -/
def loadValue (path : String) (format : Format) : FileState → Logged Json
  | .missing => .fail (.fileNotFound path)
  | .unreadable => .fail (.unreadable path)
  | .content bytes => ⟨[.loaded bytes.size path format], format.load bytes⟩

/-- Loads the file at a path in a given format. -/
def openAs (path : String) (format : Format) (state : FileState) : Logged Document := do
  let value ← loadValue path format state
  return ⟨some path, value, none⟩

/-- Loads the file at a path in the format of its extension. -/
def openFile (path : String) (state : FileState) : Logged Document :=
  match Format.ofPath path with
  | .error failure => .fail failure
  | .ok format => openAs path format state

/-- A document from the text of a value. -/
def ofText (text : String) : Except Failure Document :=
  (Format.load .json text.toUTF8).map ofValue

end Document

end RecordFilter
