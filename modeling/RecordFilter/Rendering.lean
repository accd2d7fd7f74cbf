import RecordFilter.Json.Printer

/-! Documents for a terminal: on one line or indented, with or without colours, written as far as
the writer goes. -/

namespace RecordFilter

/-- How a document is shown. -/
structure Style where
  /-- Whether items and members stand on lines of their own. -/
  pretty : Bool
  /-- Whether words, numbers, strings and keys are coloured. -/
  color : Bool
deriving DecidableEq

/-- What a piece of a document is, which decides its colour. -/
inductive Role
  /-- The word for null. -/
  | null
  /-- One of the words for truth values. -/
  | bool
  /-- A number. -/
  | number
  /-- A string. -/
  | string
  /-- The key of a member. -/
  | key
deriving DecidableEq

namespace Role

/-- The number of the terminal sequence that starts the colour of a role. -/
def code : Role → List Char
  | null => ['2', ';', '3', '1']
  | bool => ['1', ';', '3', '3']
  | number => ['3', '3']
  | string => ['3', '2']
  | key => ['3', '6']

end Role

namespace Style

/-- The character that starts a terminal sequence. -/
def escape : Char := '\x1b'

/-- A piece of text in the colour of its role. -/
def paint (style : Style) (role : Role) (text : List Char) : List Char :=
  if style.color then
    escape :: '[' :: role.code ++ 'm' :: text ++ [escape, '[', '0', 'm']
  else text

/-- The start of a new line with so many spaces, if lines are broken. -/
def newline (style : Style) (indent : Nat) : List Char :=
  if style.pretty then '\n' :: List.replicate indent ' ' else []

/-- What stands between a key and its value. -/
def colon (style : Style) : List Char :=
  if style.pretty then [':', ' '] else [':']

/-- How much further every level is indented. -/
def indentStep : Nat := 2

mutual

/-- The pieces of a document at a level of indentation, in the order they are written. -/
def pieces (style : Style) (indent : Nat) : Json → List (List Char)
  | .null => [style.paint .null (Json.write .null)]
  | .bool value => [style.paint .bool (Json.write (.bool value))]
  | .number value => [style.paint .number value.text]
  | .string text => [style.paint .string (Json.quote text)]
  | .array [] => [['['], [']']]
  | .array items =>
    ['['] :: itemPieces style (indent + indentStep) items ++ [style.newline indent, [']']]
  | .object [] => [['\x7b'], ['\x7d']]
  | .object members =>
    ['\x7b'] :: memberPieces style (indent + indentStep) members ++
      [style.newline indent, ['\x7d']]

/-- The pieces of the items of an array, each on a line of its own if lines are broken. -/
def itemPieces (style : Style) (indent : Nat) : List Json → List (List Char)
  | [] => []
  | [item] => style.newline indent :: pieces style indent item
  | item :: rest =>
    style.newline indent :: pieces style indent item ++ [','] :: itemPieces style indent rest

/-- The pieces of the members of an object, each on a line of its own if lines are broken. -/
def memberPieces (style : Style) (indent : Nat) : List (String × Json) → List (List Char)
  | [] => []
  | [(key, value)] =>
    style.newline indent :: style.paint .key (Json.quote key) :: style.colon ::
      pieces style indent value
  | (key, value) :: rest =>
    style.newline indent :: style.paint .key (Json.quote key) :: style.colon ::
      pieces style indent value ++ [','] :: memberPieces style indent rest

end

/-- The pieces of a whole document, which ends its last line. -/
def documentPieces (style : Style) (value : Json) : List (List Char) :=
  style.pieces 0 value ++ [['\n']]

/-- The text of a whole document. -/
def document (style : Style) (value : Json) : List Char :=
  (style.documentPieces value).flatten

end Style

end RecordFilter
