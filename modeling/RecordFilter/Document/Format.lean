/-! The formats that documents come in, and the names and file extensions they go by. -/

namespace RecordFilter

/-- A format that a document can be decoded from. -/
inductive Format
  /-- JSON text. -/
  | json
  /-- YAML text. -/
  | yaml
  /-- TOML text. -/
  | toml
  /-- CBOR bytes. -/
  | cbor
  /-- MessagePack bytes. -/
  | messagePack
deriving DecidableEq

namespace Format

/-- The format that is assumed where none is named. -/
def default : Format := json

/-- The name of a format in messages. -/
def title : Format → String
  | json => "JSON"
  | yaml => "YAML"
  | toml => "TOML"
  | cbor => "CBOR"
  | messagePack => "MessagePack"

/-- The format with a name in letters of either case, if there is one. -/
def ofName? (name : String) : Option Format :=
  -- Only the case of ASCII letters is ignored.
  match String.ofList (name.toList.map Char.toLower) with
  | "json" => some json
  | "yaml" => some yaml
  | "yml" => some yaml
  | "toml" => some toml
  | "cbor" => some cbor
  | "msgpack" => some messagePack
  | "mpk" => some messagePack
  | _ => none

/-- The last component of a path that names something: slashes and
lone points at the end do not count. -/
def lastComponent? (path : List Char) : Option (List Char) :=
  ((path.splitOn '/').filter fun part => !part.isEmpty && part != ['.']).getLast?

/-- The text after the last point of a file name, unless that point comes first or is missing. -/
def extension? (name : List Char) : Option (List Char) :=
  let (suffix, rest) := name.reverse.span (· != '.')
  match rest with
  | _ :: _ :: _ => if name == ['.', '.'] then none else some suffix.reverse
  | _ => none

end Format

end RecordFilter
