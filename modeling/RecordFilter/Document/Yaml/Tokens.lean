import RecordFilter.Document.Yaml.Scalar
import RecordFilter.Document.Yaml.Token

/-!
A YAML text as a list of tokens.

Indentation opens and closes block collections. Whether a node is a key shows only when a colon
follows it, so every place where a key may start is remembered until then.
-/

namespace RecordFilter.Yaml

/-- A place where a key may have started. -/
structure PendingKey where
  /-- Whether nothing but a key may stand there. -/
  required : Bool
  /-- How many tokens lie before the place. -/
  count : Nat
  /-- The place. -/
  place : Cursor

/-- The tokens that have been read, and what decides how the text goes on. -/
structure Lexing where
  /-- The place that has been reached. -/
  place : Cursor
  /-- The tokens, the latest first. -/
  tokens : List Token
  /-- The columns of the open block collections, the innermost first. -/
  indents : List Nat
  /-- Where a key may have started in the innermost flow collection, or outside of all. -/
  pending : Option PendingKey
  /-- The same for the collections around it, the innermost first. -/
  outer : List (Option PendingKey)
  /-- Whether a key may start at the place without a mark. -/
  keyAllowed : Bool

namespace Lexing

/-- The start of a text. -/
def start (text : List Char) : Lexing :=
  ⟨Cursor.start text, [], [], none, [], true⟩

/-- Whether the place is inside of a flow collection. -/
def inFlow (lexing : Lexing) : Bool :=
  !lexing.outer.isEmpty

/-- The column of the innermost block collection, and minus one outside of all. -/
def indentation (lexing : Lexing) : Int :=
  match lexing.indents with
  | [] => -1
  | column :: _ => column

/-- One more token, and the place behind it. -/
def add (lexing : Lexing) (token : Token) (place : Cursor) : Lexing :=
  { lexing with tokens := token :: lexing.tokens, place := place }

/-- A token in front of all but the first tokens. -/
def insertAt (lexing : Lexing) (count : Nat) (token : Token) : Lexing :=
  { lexing with tokens := lexing.tokens.insertIdx (lexing.tokens.length - count) token }

/-- The same with a key allowed or forbidden at the place. -/
def allowKey (lexing : Lexing) (allowed : Bool) : Lexing :=
  { lexing with keyAllowed := allowed }

/-- Opens a block collection before a token, if its column lies deeper than those around it. -/
def openBlock (lexing : Lexing) (column count : Nat) (token : Token) : Lexing :=
  if !lexing.inFlow && lexing.indentation < column then
    { lexing.insertAt count token with indents := column :: lexing.indents }
  else lexing

/-- Closes the block collections at certain columns. -/
def closeBlocks (lexing : Lexing) (closes : Nat → Bool) : Lexing :=
  if lexing.inFlow then lexing
  else
    let closed := lexing.indents.takeWhile closes
    { lexing with
      tokens := List.replicate closed.length .blockEnd ++ lexing.tokens
      indents := lexing.indents.dropWhile closes }

/-- Gives up on a key in the innermost collection, unless it is required. -/
def dropKey (lexing : Lexing) : Option Lexing :=
  if lexing.pending.any (·.required) then none else some { lexing with pending := none }

/-- Remembers that a key may start at the place. -/
def saveKey (lexing : Lexing) : Option Lexing :=
  if lexing.keyAllowed then
    let required := !lexing.inFlow && lexing.indentation == lexing.place.column
    lexing.dropKey.map fun free =>
      { free with pending := some ⟨required, lexing.tokens.length, lexing.place⟩ }
  else some lexing

/-- Whether a key started too far away for a colon at a place. -/
def isStale (place : Cursor) (key : PendingKey) : Bool :=
  key.place.line < place.line || key.place.index + 1024 < place.index

/-- Gives up on all keys that started too far away. -/
def dropStale (lexing : Lexing) : Option Lexing :=
  let stale (key : Option PendingKey) : Bool := key.any (isStale lexing.place)
  if (lexing.pending :: lexing.outer).any fun key => stale key && key.any (·.required) then none
  else
    let keep (key : Option PendingKey) : Option PendingKey := if stale key then none else key
    some { lexing with pending := keep lexing.pending, outer := lexing.outer.map keep }

/-- The place of the next token, behind blanks, comments and ends of lines. -/
def skipGaps : Nat → Lexing → Lexing
  | 0, lexing => lexing
  | fuel + 1, lexing =>
    -- Tabs are no indentation.
    let tabs := lexing.inFlow || !lexing.keyAllowed
    let gap := lexing.place.skipByteOrder.skipWhile fun character =>
      character == ' ' || (tabs && character == '\t')
    let after := if gap.rest.head? == some '#' then gap.skipWhile fun character => !isBreak character else gap
    let moved := { lexing with place := after }
    if after.rest.head?.any isBreak then
      skipGaps fuel
        { moved with place := after.skipLine, keyAllowed := lexing.keyAllowed || !lexing.inFlow }
    else moved

/-- A directive, or a mark between documents. -/
def takeBoundary (lexing : Lexing) (token : Token) (after : Cursor) : Option Lexing :=
  (lexing.closeBlocks fun _ => true).dropKey.map fun free => (free.add token after).allowKey false

/-- The opening mark of a flow collection. -/
def openFlow (lexing : Lexing) (token : Token) : Option Lexing :=
  lexing.saveKey.map fun saved =>
    { saved.add token (lexing.place.skip 1) with
      pending := none, outer := saved.pending :: saved.outer, keyAllowed := true }

/-- The closing mark of a flow collection. -/
def closeFlow (lexing : Lexing) (token : Token) : Option Lexing :=
  lexing.dropKey.map fun free =>
    let inside := (free.add token (lexing.place.skip 1)).allowKey false
    match inside.outer with
    | [] => inside
    | pending :: outer => { inside with pending := pending, outer := outer }

/-- A mark that opens a block collection at its own column, where one may start. -/
def openAtMark (lexing : Lexing) (token : Token) : Option Lexing :=
  if lexing.inFlow then some lexing
  else if lexing.keyAllowed then
    some (lexing.openBlock lexing.place.column lexing.tokens.length token)
  else none

/-- The dash in front of an item. -/
def takeEntry (lexing : Lexing) : Option Lexing :=
  (lexing.openAtMark .blockSequence).bind fun opened =>
    opened.dropKey.map fun free => (free.add .entry (lexing.place.skip 1)).allowKey true

/-- The question mark in front of a key. -/
def takeKey (lexing : Lexing) : Option Lexing :=
  (lexing.openAtMark .blockMapping).bind fun opened =>
    opened.dropKey.map fun free => (free.add .key (lexing.place.skip 1)).allowKey (!lexing.inFlow)

/-- The colon in front of a value, which makes a key of what may have been one. -/
def takeValue (lexing : Lexing) : Option Lexing :=
  match lexing.pending with
  | some key =>
    let marked := lexing.insertAt key.count .key
    let opened := marked.openBlock key.place.column key.count .blockMapping
    some ({ opened with pending := none }.add .value (lexing.place.skip 1) |>.allowKey false)
  | none =>
    (lexing.openAtMark .blockMapping).map fun opened =>
      (opened.add .value (lexing.place.skip 1)).allowKey (!lexing.inFlow)

/-- A token that may start a key. -/
def takeNode (lexing : Lexing) (found : Option (Token × Cursor)) : Option Lexing :=
  lexing.saveKey.bind fun saved =>
    found.map fun (token, after) => (saved.add token after).allowKey false

/-- A plain scalar. -/
def takePlain (lexing : Lexing) : Option Lexing :=
  lexing.saveKey.bind fun saved =>
    let place := lexing.place
    let indent := (lexing.indentation + 1).toNat
    (readPlain lexing.inFlow indent (place.rest.length + 1) [] Folding.none place).map fun reading =>
      -- A key may start on a new line behind the scalar.
      (saved.add (.scalar (String.ofList reading.text) true) reading.after).allowKey reading.broken

/-- A scalar in quotation marks. -/
def takeQuoted (lexing : Lexing) (double : Bool) : Option Lexing :=
  lexing.takeNode <|
    (readQuoted double (lexing.place.rest.length + 1) [] (lexing.place.skip 1)).map fun (text, after) =>
      (.scalar (String.ofList text) false, after)

/-- A scalar that is a block of lines. -/
def takeBlock (lexing : Lexing) (folded : Bool) : Option Lexing :=
  lexing.dropKey.bind fun free =>
    (readBlock folded lexing.indentation (lexing.place.skip 1)).map fun (text, after) =>
      (free.add (.scalar (String.ofList text) false) after).allowKey true

/-- Whether a plain scalar may start with a character before a text. -/
def startsPlain (inFlow : Bool) (first : Char) (rest : List Char) : Bool :=
  if first == '-' then !rest.head?.any isGap
  else if first == '?' || first == ':' then !inFlow && !atGap rest
  else
    !(isGap first || isBreak first || isFlowMark first ||
      ['#', '&', '*', '!', '|', '>', '\'', '"', '%', '@', '\x60'].contains first)

/-- Whether a question mark or a colon before a text is a mark of a mapping. -/
def isMappingMark (inFlow : Bool) (rest : List Char) : Bool :=
  inFlow || atGap rest

/-- The token at a place with a character and a text behind it. -/
def step (lexing : Lexing) (first : Char) (rest : List Char) : Option Lexing :=
  let place := lexing.place
  let inFlow := lexing.inFlow
  if place.column == 0 && first == '%' then
    (readDirective (place.skip 1)).bind fun (token, after) => lexing.takeBoundary token after
  else if place.isAtDocumentMark then
    lexing.takeBoundary (if first == '-' then .documentStart else .documentEnd) (place.skip 3)
  else if first == '[' then lexing.openFlow .flowSequence
  else if first == '\x7b' then lexing.openFlow .flowMapping
  else if first == ']' then lexing.closeFlow .flowSequenceEnd
  else if first == '\x7d' then lexing.closeFlow .flowMappingEnd
  else if first == ',' then
    lexing.dropKey.map fun free => (free.add .separator (place.skip 1)).allowKey true
  else if first == '-' && atGap rest then lexing.takeEntry
  else if first == '?' && isMappingMark inFlow rest then lexing.takeKey
  else if first == ':' && isMappingMark inFlow rest then lexing.takeValue
  else if first == '*' then
    lexing.takeNode ((readName (place.skip 1)).map fun (name, after) => (.reference name, after))
  else if first == '&' then
    lexing.takeNode ((readName (place.skip 1)).map fun (name, after) => (.anchor name, after))
  else if first == '!' then lexing.takeNode (readTag inFlow place)
  else if (first == '|' || first == '>') && !inFlow then lexing.takeBlock (first == '>')
  else if first == '\'' || first == '"' then lexing.takeQuoted (first == '"')
  else if startsPlain inFlow first rest then lexing.takePlain
  else none

/-- All tokens from a place on. -/
def run : Nat → Lexing → Option (List Token)
  | 0, _ => none
  | fuel + 1, lexing =>
    (skipGaps (lexing.place.rest.length + 1) lexing).dropStale.bind fun fresh =>
      let ready := fresh.closeBlocks (fresh.place.column < ·)
      match ready.place.rest with
      | [] => (ready.closeBlocks fun _ => true).dropKey.map (·.tokens.reverse)
      | first :: rest => (ready.step first rest).bind (run fuel)

end Lexing

/-- The tokens of a text, if it can be divided into tokens. -/
def tokens? (text : List Char) : Option (List Token) :=
  Lexing.run (text.length + 1) (Lexing.start text)

end RecordFilter.Yaml
