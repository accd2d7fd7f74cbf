import RecordFilter.Document.Format
import RecordFilter.Text.Quoted

/-! The ways in which loading a document or running a query fails, and their messages. -/

namespace RecordFilter

/-- Why loading a document or running a query fails. -/
inductive Failure
  /-- There is no file at the path. -/
  | fileNotFound (path : String)
  /-- The file at the path cannot be read. -/
  | unreadable (path : String)
  /-- The content is no document of the format. -/
  | malformed (format : Format)
  /-- No format has the name. -/
  | unsupportedFormat (name : String)
  /-- No operator has the token. -/
  | conditionNotAllowed (token : String)
deriving DecidableEq

namespace Failure

/-- The message of a failure, up to what a decoder or the system may have to add. -/
def message : Failure → String
  | fileNotFound path => "File not found: " ++ path
  | unreadable path => "Failed to read " ++ path ++ ": "
  | malformed format => "Invalid " ++ format.title ++ " document: "
  | unsupportedFormat name => "Unsupported document format: " ++ name
  | conditionNotAllowed token =>
    "Condition not allowed: " ++ String.ofList (Text.quoted token.toList)

/-- Whether a failure has a cause of its own, which only the system can give. -/
def hasSource : Failure → Bool
  | unreadable _ => true
  | _ => false

end Failure

namespace Format

/-- The format with a name. -/
def ofName (name : String) : Except Failure Format :=
  match ofName? name with
  | some format => .ok format
  | none => .error (.unsupportedFormat name)

/-- The format of the file at a path, by its extension, and the default format without one. -/
def ofPath (path : String) : Except Failure Format :=
  match (lastComponent? path.toList).bind extension? with
  | some suffix => ofName (String.ofList suffix)
  | none => .ok default

end Format

end RecordFilter
