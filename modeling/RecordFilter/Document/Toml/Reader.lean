import RecordFilter.Document.Toml.Scalar
import RecordFilter.Document.Toml.Tables

/-! The text of TOML: lines with assignments and headers, strings of
four kinds, arrays and inline tables. -/

namespace RecordFilter.Toml

/-- Whether a character is a space or a tab. -/
def isGap (character : Char) : Bool :=
  character == ' ' || character == '\t'

/-- A text without the spaces and tabs at its start. -/
def skipGap (text : List Char) : List Char :=
  text.dropWhile isGap

/-- Whether a character may stand in comments and in literal strings. -/
def isPlain (character : Char) : Bool :=
  character == '\t' || (32 ≤ character.toNat && character.toNat != 127)

/-- What follows the end of a line, if the text begins with one. -/
def takeNewline : List Char → Option (List Char)
  | '\n' :: rest => some rest
  | '\r' :: '\n' :: rest => some rest
  | _ => none

/-- What follows an optional comment. -/
def skipComment (text : List Char) : List Char :=
  match text with
  | '#' :: rest => rest.dropWhile isPlain
  | _ => text

/-- What follows the end of a line with optional spaces and an optional comment before it. -/
def endLine? (text : List Char) : Option (List Char) :=
  match skipComment (skipGap text) with
  | [] => some []
  | rest => takeNewline rest

/-- What follows spaces, comments and ends of lines between the items of an array. -/
def skipBetween : Nat → List Char → List Char
  | 0, text => text
  | fuel + 1, text =>
    let rest := skipComment (skipGap text)
    match takeNewline rest with
    | some after => skipBetween fuel after
    | none => rest

/-- The character of an escape with so many hexadecimal digits, and what follows it. -/
def codeEscape? (count : Nat) (text : List Char) : Option (Char × List Char) :=
  let front := text.take count
  if front.length == count then
    (hexNumber? 0 front).bind fun code =>
      if code.isValidChar then some (Char.ofNat code, text.drop count) else none
  else none

/-- The character of an escape after its backslash, and what follows it. -/
def escape? : List Char → Option (Char × List Char)
  | 'b' :: rest => some ('\x08', rest)
  | 'f' :: rest => some ('\x0c', rest)
  | 'n' :: rest => some ('\n', rest)
  | 'r' :: rest => some ('\r', rest)
  | 't' :: rest => some ('\t', rest)
  | '"' :: rest => some ('"', rest)
  | '\\' :: rest => some ('\\', rest)
  | 'u' :: rest => codeEscape? 4 rest
  | 'U' :: rest => codeEscape? 8 rest
  | _ => none

/-- One more character in front of the content of a string. -/
def consContent (character : Char) (content : Option (List Char × List Char)) :
    Option (List Char × List Char) :=
  content.map fun (characters, rest) => (character :: characters, rest)

/-- The content of a basic string up to its closing quotation mark, and what follows it. -/
def basicContent : Nat → List Char → Option (List Char × List Char)
  | 0, _ => none
  | _, [] => none
  | _, '"' :: rest => some ([], rest)
  | fuel + 1, '\\' :: rest =>
    (escape? rest).bind fun (character, after) => consContent character (basicContent fuel after)
  | fuel + 1, character :: rest =>
    if isPlain character then consContent character (basicContent fuel rest) else none

/-- What follows spaces and ends of lines behind a backslash that ends a line. -/
def skipFolded : Nat → List Char → List Char
  | 0, text => text
  | fuel + 1, text =>
    let rest := skipGap text
    match takeNewline rest with
    | some after => skipFolded fuel after
    | none => rest

/-- The closing marks of a string over several lines: up to two more belong to its content. -/
def closing? (mark : Char) : List Char → Option (List Char × List Char)
  | first :: second :: third :: rest =>
    if first == mark && second == mark && third == mark then
      match rest with
      | fourth :: fifth :: after =>
        if fourth == mark && fifth == mark then some ([mark, mark], after)
        else if fourth == mark then some ([mark], fifth :: after)
        else some ([], rest)
      | [fourth] => if fourth == mark then some ([mark], []) else some ([], rest)
      | [] => some ([], [])
    else none
  | _ => none

/-- The content of a basic string over several lines, and what follows it. -/
def longBasicContent : Nat → List Char → Option (List Char × List Char)
  | 0, _ => none
  | fuel + 1, text =>
    match closing? '"' text with
    | some closed => some closed
    | none =>
      match takeNewline text, text with
      | some after, _ => consContent '\n' (longBasicContent fuel after)
      | none, '\\' :: rest =>
        match takeNewline (skipGap rest) with
        | some after => longBasicContent fuel (skipFolded after.length after)
        | none =>
          (escape? rest).bind fun (character, after) =>
            consContent character (longBasicContent fuel after)
      | none, character :: rest =>
        if isPlain character then consContent character (longBasicContent fuel rest) else none
      | none, [] => none

/-- The content of a literal string over several lines, and what follows it. -/
def longLiteralContent : Nat → List Char → Option (List Char × List Char)
  | 0, _ => none
  | fuel + 1, text =>
    match closing? '\'' text with
    | some closed => some closed
    | none =>
      match takeNewline text, text with
      | some after, _ => consContent '\n' (longLiteralContent fuel after)
      | none, character :: rest =>
        if isPlain character then consContent character (longLiteralContent fuel rest) else none
      | none, [] => none

/-- The content of a literal string up to its closing mark, and what follows it. -/
def literalContent (text : List Char) : Option (List Char × List Char) :=
  let (content, rest) := text.span fun character => isPlain character && character != '\''
  match rest with
  | '\'' :: after => some (content, after)
  | _ => none

/-- What follows an end of line right after the opening marks of a string over several lines. -/
def skipFirstLine (text : List Char) : List Char :=
  (takeNewline text).getD text

/-- Reads a string of one line in either kind of quotation marks, and what follows it. -/
def shortString? (text : List Char) : Option (List Char × List Char) :=
  match text with
  | '"' :: rest => basicContent (rest.length + 1) rest
  | '\'' :: rest => literalContent rest
  | _ => none

/-- Reads a string of any kind, and what follows it. -/
def string? (text : List Char) : Option (List Char × List Char) :=
  match text with
  | '"' :: '"' :: '"' :: rest => longBasicContent (rest.length + 1) (skipFirstLine rest)
  | '\'' :: '\'' :: '\'' :: rest => longLiteralContent (rest.length + 1) (skipFirstLine rest)
  | _ => shortString? text

/-- Whether a character may stand in a key without quotation marks. -/
def isKeyCharacter (character : Char) : Bool :=
  character.isAlphanum || character == '-' || character == '_'

/-- Reads one key, and what follows it. -/
def simpleKey? (text : List Char) : Option (String × List Char) :=
  match text with
  | '"' :: _ => (shortString? text).map fun (key, rest) => (String.ofList key, rest)
  | '\'' :: _ => (shortString? text).map fun (key, rest) => (String.ofList key, rest)
  | _ =>
    let (key, rest) := text.span isKeyCharacter
    if key.isEmpty then none else some (String.ofList key, rest)

/-- Reads keys with points between them: those in front, the last one, and what follows it. -/
def dottedKey? : Nat → List Char → Option (List String × String × List Char)
  | 0, _ => none
  | fuel + 1, text =>
    (simpleKey? (skipGap text)).bind fun (key, afterKey) =>
      match skipGap afterKey with
      | '.' :: rest =>
        (dottedKey? fuel rest).map fun (path, last, after) => (key :: path, last, after)
      | rest => some ([], key, rest)

/-- Whether a character may stand in a number, a date or a word. -/
def isWordCharacter (character : Char) : Bool :=
  character.isAlphanum || ['_', '+', '-', '.', ':'].contains character

/-- Reads a word that stands for a value; a date and a time may have a space between them. -/
def word? (text : List Char) : Option (Json × List Char) :=
  let (word, rest) := text.span isWordCharacter
  match takeDate? word, rest with
  | some (date, []), ' ' :: first :: more =>
    if first.isDigit then
      let (time, after) := (first :: more).span isWordCharacter
      (dateTime? (date ++ ' ' :: time)).map fun value => (value, after)
    else some (ofDate date, rest)
  | _, _ => (scalar? word).map fun value => (value, rest)

/-- How many arrays and inline tables may lie around each other. -/
def nestingLimit : Nat := 79

mutual

/-- Reads a value, and what follows it, with room for so many containers around each other. -/
def value? : Nat → Nat → List Char → Option (Json × List Char)
  | 0, _, _ => none
  | fuel + 1, room, text =>
    match text with
    | '"' :: _ =>
      (string? text).map fun (content, rest) => (.string (String.ofList content), rest)
    | '\'' :: _ =>
      (string? text).map fun (content, rest) => (.string (String.ofList content), rest)
    | '[' :: rest =>
      match room with
      | 0 => none
      | inner + 1 => (items? fuel inner rest).map fun (items, after) => (.array items, after)
    | '\x7b' :: rest =>
      match room with
      | 0 => none
      | inner + 1 =>
        match skipGap rest with
        | '\x7d' :: after => some (.object [], after)
        | members =>
          (members? fuel inner members).bind fun (assignments, after) =>
            (ofSections? assignments []).map fun content => (content, after)
    | _ => word? text

/-- Reads the items of an array up to its closing bracket; a comma may stand behind the last. -/
def items? : Nat → Nat → List Char → Option (List Json × List Char)
  | 0, _, _ => none
  | fuel + 1, room, text =>
    match skipBetween text.length text with
    | ']' :: after => some ([], after)
    | inner =>
      (value? fuel room inner).bind fun (item, afterItem) =>
        match skipBetween afterItem.length afterItem with
        | ',' :: rest => (items? fuel room rest).map fun (items, after) => (item :: items, after)
        | ']' :: after => some ([item], after)
        | _ => none

/-- Reads the members of an inline table up to its closing brace, all on one line. -/
def members? : Nat → Nat → List Char → Option (List Table.Assignment × List Char)
  | 0, _, _ => none
  | fuel + 1, room, text =>
    (dottedKey? text.length text).bind fun (path, key, afterKey) =>
      match afterKey with
      | '=' :: afterSign =>
        (value? fuel room (skipGap afterSign)).bind fun (value, afterValue) =>
          match skipGap afterValue with
          | ',' :: rest =>
            (members? fuel room rest).map fun (members, after) => (⟨path, key, value⟩ :: members, after)
          | '\x7d' :: after => some ([⟨path, key, value⟩], after)
          | _ => none
      | _ => none

end

/-- Reads an assignment and the end of its line, and what follows it. -/
def assignment? (text : List Char) : Option (Table.Assignment × List Char) :=
  (dottedKey? text.length text).bind fun (path, key, afterKey) =>
    match afterKey with
    | '=' :: afterSign =>
      -- At most three calls are made for every character.
      (value? (3 * text.length + 3) nestingLimit (skipGap afterSign)).bind fun (value, afterValue) =>
        (endLine? afterValue).map fun rest => (⟨path, key, value⟩, rest)
    | _ => none

/-- Reads a header after its opening brackets and the end of its line, and what follows it. -/
def header? (repeats : Bool) (text : List Char) : Option (Table.Section × List Char) :=
  (dottedKey? text.length text).bind fun (path, key, afterKey) =>
    match repeats, afterKey with
    | false, ']' :: closed => (endLine? closed).map fun rest => (⟨false, path, key, []⟩, rest)
    | true, ']' :: ']' :: closed => (endLine? closed).map fun rest => (⟨true, path, key, []⟩, rest)
    | _, _ => none

/-- Reads all lines: assignments in front of the first header, and the sections of the headers. -/
def lines? : Nat → List Char → Option (List Table.Assignment × List Table.Section)
  | 0, _ => none
  | fuel + 1, text =>
    match skipGap text with
    | [] => some ([], [])
    | '[' :: '[' :: rest =>
      (header? true rest).bind fun (opened, after) =>
        (lines? fuel after).map fun (assignments, sections) =>
          ([], { opened with assignments } :: sections)
    | '[' :: rest =>
      (header? false rest).bind fun (opened, after) =>
        (lines? fuel after).map fun (assignments, sections) =>
          ([], { opened with assignments } :: sections)
    | line =>
      match endLine? line with
      | some rest => lines? fuel rest
      | none =>
        (assignment? line).bind fun (assignment, rest) =>
          (lines? fuel rest).map fun (assignments, sections) => (assignment :: assignments, sections)

/-- A text without the mark of its byte order. -/
def withoutMark : List Char → List Char
  | '\uFEFF' :: rest => rest
  | text => text

/-- The document that a text holds. -/
def read (text : List Char) : Option Json :=
  (lines? (text.length + 1) (withoutMark text)).bind fun (assignments, sections) =>
    ofSections? assignments sections

/-- The document that bytes hold as UTF-8 text. -/
def decode (bytes : ByteArray) : Option Json :=
  (String.fromUTF8? bytes).bind fun text => read text.toList

end RecordFilter.Toml
