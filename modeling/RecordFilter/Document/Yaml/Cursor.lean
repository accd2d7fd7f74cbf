/-! Places in a YAML text, its lines and columns, and the characters
that separate words and lines. -/

namespace RecordFilter.Yaml

/-- A place in a text. -/
structure Cursor where
  /-- How many characters lie before the place. -/
  index : Nat
  /-- How many lines lie before the place. -/
  line : Nat
  /-- How many characters of the line lie before the place. -/
  column : Nat
  /-- The rest of the text. -/
  rest : List Char

/-- Whether a character ends a line. -/
def isBreak (character : Char) : Bool :=
  ['\n', '\r', '\u0085', '\u2028', '\u2029'].contains character

/-- Whether a character is a space or a tab. -/
def isGap (character : Char) : Bool :=
  character == ' ' || character == '\t'

/-- Whether a text is at its end or goes on with a space, a tab or the end of a line. -/
def atGap : List Char → Bool
  | [] => true
  | character :: _ => isGap character || isBreak character

/-- Whether a text is at its end or at the end of a line. -/
def atLineEnd : List Char → Bool
  | [] => true
  | character :: _ => isBreak character

/-- Whether a character may stand in a text at all. -/
def isAllowed (character : Char) : Bool :=
  let code := character.toNat
  code == 0x09 || code == 0x0A || code == 0x0D || (0x20 ≤ code && code ≤ 0x7E) || code == 0x85 ||
    (0xA0 ≤ code && code ≤ 0xFFFD) || 0x10000 ≤ code

/-- Whether a text begins with one of the marks between documents. -/
def atDocumentMark (text : List Char) : Bool :=
  (['-', '-', '-'].isPrefixOf text || ['.', '.', '.'].isPrefixOf text) && atGap (text.drop 3)

namespace Cursor

/-- The start of a text. -/
def start (text : List Char) : Cursor := ⟨0, 0, 0, text⟩

/-- The place so many characters further on the same line. -/
def skip (cursor : Cursor) (count : Nat) : Cursor :=
  ⟨cursor.index + count, cursor.line, cursor.column + count, cursor.rest.drop count⟩

/-- The place at the start of the next line. -/
def skipLine (cursor : Cursor) : Cursor :=
  match cursor.rest with
  | '\r' :: '\n' :: rest => ⟨cursor.index + 2, cursor.line + 1, 0, rest⟩
  | _ :: rest => ⟨cursor.index + 1, cursor.line + 1, 0, rest⟩
  | [] => cursor

/-- What the end of a line means in a scalar: a line feed, or one
of the two separators as they are. -/
def lineText (cursor : Cursor) : List Char :=
  match cursor.rest with
  | [] => []
  | character :: _ => if character == '\u2028' || character == '\u2029' then [character] else ['\n']

/-- The place behind all characters of a class on the same line. -/
def skipWhile (cursor : Cursor) (accepts : Char → Bool) : Cursor :=
  cursor.skip (cursor.rest.takeWhile accepts).length

/-- The place behind the mark of a byte order, which may start a line
but counts as a character of it. -/
def skipByteOrder (cursor : Cursor) : Cursor :=
  if cursor.column == 0 && cursor.rest.head? == some '\uFEFF' then cursor.skip 1 else cursor

/-- Whether the place is at the start of a line with a mark between documents. -/
def isAtDocumentMark (cursor : Cursor) : Bool :=
  cursor.column == 0 && atDocumentMark cursor.rest

end Cursor

end RecordFilter.Yaml
