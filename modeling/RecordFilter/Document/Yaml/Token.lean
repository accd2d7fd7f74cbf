import RecordFilter.Document.Yaml.Cursor
import RecordFilter.Numeric.Digits

/-! The tokens of YAML, and how directives, anchors and tags are written. -/

namespace RecordFilter.Yaml

/-- A token of a text. The starts and ends of block collections follow from indentation alone. -/
inductive Token
  /-- A directive that names the version of the language. -/
  | version (major minor : Nat)
  /-- A directive that gives tags with a handle their beginning. -/
  | shorthand (handle meaning : String)
  /-- The mark in front of a document. -/
  | documentStart
  /-- The mark behind a document. -/
  | documentEnd
  /-- The start of a block sequence. -/
  | blockSequence
  /-- The start of a block mapping. -/
  | blockMapping
  /-- The end of a block collection. -/
  | blockEnd
  /-- An opening bracket. -/
  | flowSequence
  /-- A closing bracket. -/
  | flowSequenceEnd
  /-- An opening brace. -/
  | flowMapping
  /-- A closing brace. -/
  | flowMappingEnd
  /-- A comma. -/
  | separator
  /-- A dash in front of an item of a block sequence. -/
  | entry
  /-- The start of a key, with or without a mark. -/
  | key
  /-- The colon in front of a value. -/
  | value
  /-- The name of a node from elsewhere, which stands for it. -/
  | reference (name : String)
  /-- A name for the node that follows. -/
  | anchor (name : String)
  /-- A tag of the node that follows: its handle, and the part behind the handle. -/
  | tag (handle rest : String)
  /-- A scalar, and whether it is plain. -/
  | scalar (text : String) (plain : Bool)
deriving DecidableEq

/-- Whether a character may stand in names of anchors, handles and directives. -/
def isNameChar (character : Char) : Bool :=
  character.isAlphanum || character == '_' || character == '-'

/-- Whether a character other than a blank may follow the name of an anchor. -/
def endsName (character : Char) : Bool :=
  ['?', ':', ',', ']', '\x7d', '%', '@', '\x60'].contains character

/-- The name behind the mark of an anchor or of a reference, and the place behind it. -/
def readName (cursor : Cursor) : Option (String × Cursor) :=
  let name := cursor.rest.takeWhile isNameChar
  let after := cursor.skip name.length
  if !name.isEmpty && (atGap after.rest || after.rest.head?.any endsName) then
    some (String.ofList name, after)
  else none

/-- The handle that a tag begins with, an exclamation mark or a name
between two, and the place behind it. -/
def readHandle (cursor : Cursor) : Option (List Char × Cursor) :=
  match cursor.rest with
  | '!' :: rest =>
    let name := rest.takeWhile isNameChar
    if (rest.drop name.length).head? == some '!' then
      some ('!' :: name ++ ['!'], cursor.skip (name.length + 2))
    else some ('!' :: name, cursor.skip (name.length + 1))
  | _ => none

/-- Whether a character may stand in a tag; commas and brackets may only
where the tag has an end of its own. -/
def isTagChar (enclosed : Bool) (character : Char) : Bool :=
  isNameChar character ||
    [';', '/', '?', ':', '@', '&', '=', '+', '$', '.', '!', '~', '*', '\'', '(', ')'].contains character ||
    (enclosed && [',', '[', ']'].contains character)

/-- The octet that a percent sign and two hexadecimal digits stand for. -/
def readOctet? : List Char → Option Nat
  | '%' :: high :: low :: _ => hexNumber? 0 [high, low]
  | _ => none

/-- How many octets go on a character whose first octet is given, and what that one adds to it. -/
def leading? (octet : Nat) : Option (Nat × Nat) :=
  if octet < 0x80 then some (0, octet)
  else if 0xC0 ≤ octet && octet < 0xE0 then some (1, octet - 0xC0)
  else if 0xE0 ≤ octet && octet < 0xF0 then some (2, octet - 0xE0)
  else if 0xF0 ≤ octet && octet < 0xF8 then some (3, octet - 0xF0)
  else none

/-- The octets that go on a character, which add six bits each, and the place behind them. -/
def readTrailing : Nat → Nat → Cursor → Option (Nat × Cursor)
  | 0, code, cursor => some (code, cursor)
  | count + 1, code, cursor =>
    (readOctet? cursor.rest).bind fun octet =>
      if 0x80 ≤ octet && octet < 0xC0 then
        readTrailing count (code * 64 + (octet - 0x80)) (cursor.skip 3)
      else none

/-- The character that escaped octets stand for, and the place behind them. -/
def readEscaped (cursor : Cursor) : Option (Char × Cursor) :=
  (readOctet? cursor.rest).bind fun octet =>
    (leading? octet).bind fun (count, start) =>
      (readTrailing count start (cursor.skip 3)).map fun (code, after) => (Char.ofNat code, after)

/-- The characters of a tag, of which a percent sign escapes one, and the place behind. -/
def readTagChars (enclosed : Bool) : Nat → Cursor → Option (List Char × Cursor)
  | 0, _ => none
  | fuel + 1, cursor =>
    match cursor.rest with
    | '%' :: _ =>
      (readEscaped cursor).bind fun (character, behind) =>
        (readTagChars enclosed fuel behind).map fun (text, after) => (character :: text, after)
    | character :: _ =>
      if isTagChar enclosed character then
        (readTagChars enclosed fuel (cursor.skip 1)).map fun (text, after) => (character :: text, after)
      else some ([], cursor)
    | [] => some ([], cursor)

/-- The rest of a tag behind its handle, which must not be empty, and the place behind it. -/
def readTagRest (enclosed : Bool) (cursor : Cursor) : Option (List Char × Cursor) :=
  (readTagChars enclosed (cursor.rest.length + 1) cursor).filter fun (text, _) => !text.isEmpty

/-- A tag between angle brackets, after its exclamation mark. -/
def readVerbatim (cursor : Cursor) : Option (Token × Cursor) :=
  (readTagRest true (cursor.skip 1)).bind fun (text, after) =>
    if after.rest.head? == some '>' then some (.tag "" (String.ofList text), after.skip 1) else none

/-- A tag with a handle of its own, or one behind a single exclamation mark. -/
def readShort (cursor : Cursor) : Option (Token × Cursor) :=
  (readHandle cursor).bind fun (handle, afterHandle) =>
    if handle.length > 1 && handle.getLast? == some '!' then
      (readTagRest false afterHandle).map fun (text, after) =>
        (.tag (String.ofList handle) (String.ofList text), after)
    else
      (readTagChars false (afterHandle.rest.length + 1) afterHandle).map fun (text, after) =>
        let rest := handle.drop 1 ++ text
        if rest.isEmpty then (.tag "" "!", after) else (.tag "!" (String.ofList rest), after)

/-- A tag, and the place behind it. -/
def readTag (inFlow : Bool) (cursor : Cursor) : Option (Token × Cursor) :=
  let found := if (cursor.rest.drop 1).head? == some '<' then readVerbatim (cursor.skip 1) else readShort cursor
  found.filter fun (_, after) => atGap after.rest || (inFlow && after.rest.head? == some ',')

/-- A number of one to nine digits, and the place behind it. -/
def readVersionPart (cursor : Cursor) : Option (Nat × Cursor) :=
  let text := cursor.rest.takeWhile Char.isDigit
  if text.isEmpty || text.length > 9 then none else some (ofDigits text, cursor.skip text.length)

/-- The version that a directive names. -/
def readVersion (cursor : Cursor) : Option (Token × Cursor) :=
  (readVersionPart cursor).bind fun (major, afterMajor) =>
    if afterMajor.rest.head? == some '.' then
      (readVersionPart (afterMajor.skip 1)).map fun (minor, after) => (.version major minor, after)
    else none

/-- The handle that a directive gives a meaning, and that meaning. -/
def readShorthand (cursor : Cursor) : Option (Token × Cursor) :=
  (readHandle cursor).bind fun (handle, afterHandle) =>
    if handle.getLast? == some '!' && afterHandle.rest.head?.any isGap then
      (readTagRest true (afterHandle.skipWhile isGap)).bind fun (meaning, after) =>
        if atGap after.rest then
          some (.shorthand (String.ofList handle) (String.ofList meaning), after)
        else none
    else none

/-- The end of a line behind optional blanks and an optional comment. -/
def skipToLineEnd (cursor : Cursor) : Option Cursor :=
  let gap := cursor.skipWhile isGap
  let after := if gap.rest.head? == some '#' then gap.skipWhile fun character => !isBreak character else gap
  if atLineEnd after.rest then some after else none

/-- A directive after its percent sign, and the place at the start of the next line. -/
def readDirective (cursor : Cursor) : Option (Token × Cursor) :=
  let name := cursor.rest.takeWhile isNameChar
  let content := (cursor.skip name.length).skipWhile isGap
  let found :=
    if !atGap (cursor.rest.drop name.length) then none
    else if name == ['Y', 'A', 'M', 'L'] then readVersion content
    else if name == ['T', 'A', 'G'] then readShorthand content
    else none
  found.bind fun (token, after) => (skipToLineEnd after).map fun place => (token, place.skipLine)

end RecordFilter.Yaml
