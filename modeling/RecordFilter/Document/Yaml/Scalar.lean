import RecordFilter.Document.Yaml.Cursor
import RecordFilter.Numeric.Digits

/-! The five ways to write a scalar in YAML: plain, in either kind of quotation marks, and as a
block of lines. -/

namespace RecordFilter.Yaml

/-- Blanks inside a scalar that wait for the next word. -/
structure Folding where
  /-- Whether a line has ended. -/
  broken : Bool
  /-- Blanks on the same line. -/
  blanks : List Char
  /-- The first end of a line. -/
  first : List Char
  /-- All further ends of lines. -/
  further : List Char

namespace Folding

/-- No blanks at all. -/
def none : Folding := ⟨false, [], [], []⟩

/-- What the blanks mean: a single end of a line is a space, and
further ones stand for themselves. -/
def text (folding : Folding) : List Char :=
  if !folding.broken then folding.blanks
  else if folding.first == ['\n'] then
    if folding.further.isEmpty then [' '] else folding.further
  else folding.first ++ folding.further

/-- One more space or tab. -/
def addBlank (folding : Folding) (character : Char) : Folding :=
  if folding.broken then folding else { folding with blanks := folding.blanks ++ [character] }

/-- One more end of a line. -/
def addBreak (folding : Folding) (line : List Char) : Folding :=
  if folding.broken then { folding with further := folding.further ++ line }
  else { folding with broken := true, blanks := [], first := line }

end Folding

/-- Takes blanks and ends of lines; a tab must not stand where a plain scalar is indented. -/
def takeBlanks (tabsFrom : Nat) : Nat → Folding → Cursor → Option (Folding × Cursor)
  | 0, _, _ => none
  | fuel + 1, folding, cursor =>
    match cursor.rest with
    | [] => some (folding, cursor)
    | character :: _ =>
      if isGap character then
        if folding.broken && character == '\t' && cursor.column < tabsFrom then none
        else takeBlanks tabsFrom fuel (folding.addBlank character) (cursor.skip 1)
      else if isBreak character then
        takeBlanks tabsFrom fuel (folding.addBreak cursor.lineText) cursor.skipLine
      else some (folding, cursor)

/-- Whether a character opens, closes or separates the items of a flow collection. -/
def isFlowMark (character : Char) : Bool :=
  [',', '[', ']', '\x7b', '\x7d'].contains character

/-- Whether a plain word ends before a text. -/
def endsWord (inFlow : Bool) : List Char → Bool
  | [] => true
  | ':' :: rest => atGap rest
  | character :: _ => isGap character || isBreak character || (inFlow && isFlowMark character)

/-- Whether a colon stands where a flow collection allows none. -/
def isStrayColon (inFlow : Bool) : List Char → Bool
  | ':' :: next :: _ => inFlow && (isFlowMark next || next == '?')
  | _ => false

/-- A word of a plain scalar, and the place behind it. -/
def takeWord (inFlow : Bool) : Nat → Cursor → Option (List Char × Cursor)
  | 0, _ => none
  | fuel + 1, cursor =>
    match cursor.rest with
    | [] => some ([], cursor)
    | character :: _ =>
      if isStrayColon inFlow cursor.rest then none
      else if endsWord inFlow cursor.rest then some ([], cursor)
      else
        (takeWord inFlow fuel (cursor.skip 1)).map fun (word, after) => (character :: word, after)

/-- A scalar as read: its text, the place behind it, and whether
a line has ended before that place. -/
structure ScalarReading where
  /-- The text. -/
  text : List Char
  /-- The place behind the scalar. -/
  after : Cursor
  /-- Whether the place is on a later line than the last word. -/
  broken : Bool

/-- Reads words of a plain scalar as long as they are indented. -/
def readPlain (inFlow : Bool) (indent : Nat) : Nat → List Char → Folding → Cursor → Option ScalarReading
  | 0, _, _, _ => none
  | fuel + 1, text, folding, cursor =>
    if cursor.isAtDocumentMark || cursor.rest.head? == some '#' then
      some ⟨text, cursor, folding.broken⟩
    else
      (takeWord inFlow (cursor.rest.length + 1) cursor).bind fun (word, afterWord) =>
        let grown := if word.isEmpty then text else text ++ folding.text ++ word
        let kept := if word.isEmpty then folding else Folding.none
        if !atGap afterWord.rest || afterWord.rest.isEmpty then some ⟨grown, afterWord, kept.broken⟩
        else
          (takeBlanks indent (afterWord.rest.length + 1) kept afterWord).bind fun (blanks, next) =>
            if !inFlow && next.column < indent then some ⟨grown, next, blanks.broken⟩
            else readPlain inFlow indent fuel grown blanks next

/-- The character that a short escape in double quotation marks names. -/
def shortEscape? : Char → Option Char
  | '0' => some '\x00'
  | 'a' => some '\x07'
  | 'b' => some '\x08'
  | 't' => some '\t'
  | '\t' => some '\t'
  | 'n' => some '\n'
  | 'v' => some '\x0b'
  | 'f' => some '\x0c'
  | 'r' => some '\r'
  | 'e' => some '\x1b'
  | ' ' => some ' '
  | '"' => some '"'
  | '/' => some '/'
  | '\\' => some '\\'
  | 'N' => some '\u0085'
  | '_' => some '\u00a0'
  | 'L' => some '\u2028'
  | 'P' => some '\u2029'
  | _ => none

/-- How many hexadecimal digits follow the letter of an escape. -/
def codeLength? : Char → Option Nat
  | 'x' => some 2
  | 'u' => some 4
  | 'U' => some 8
  | _ => none

/-- The character of an escape after its backslash, and how many characters the escape has. -/
def escape? (text : List Char) : Option (Char × Nat) :=
  match text with
  | [] => none
  | name :: rest =>
    match codeLength? name with
    | some count =>
      if (rest.take count).length == count then
        (hexNumber? 0 (rest.take count)).bind fun code =>
          if code.isValidChar then some (Char.ofNat code, count + 1) else none
      else none
    | none => (shortEscape? name).map fun character => (character, 1)

/-- What ends a run of characters in a quoted scalar. -/
inductive RunEnd
  /-- The closing mark, and the place behind it. -/
  | closed (after : Cursor)
  /-- Blanks, which start at the place. -/
  | blanks (place : Cursor)
  /-- A backslash at the end of a line, and the place on the next line. -/
  | escapedBreak (next : Cursor)

/-- One more character in front of a run. -/
def consRun (character : Char) (run : Option (List Char × RunEnd)) : Option (List Char × RunEnd) :=
  run.map fun (characters, ending) => (character :: characters, ending)

/-- A run of characters without blanks in a quoted scalar. -/
def takeRun (double : Bool) : Nat → Cursor → Option (List Char × RunEnd)
  | 0, _ => none
  | fuel + 1, cursor =>
    match cursor.rest with
    | [] => some ([], .blanks cursor)
    | character :: rest =>
      if isGap character || isBreak character then some ([], .blanks cursor)
      else if double then
        if character == '"' then some ([], .closed (cursor.skip 1))
        else if character == '\\' then
          if !rest.isEmpty && atLineEnd rest then some ([], .escapedBreak (cursor.skip 1).skipLine)
          else
            (escape? rest).bind fun (meant, length) =>
              consRun meant (takeRun double fuel (cursor.skip (length + 1)))
        else consRun character (takeRun double fuel (cursor.skip 1))
      else
        match character, rest with
        | '\'', '\'' :: _ => consRun '\'' (takeRun double fuel (cursor.skip 2))
        | '\'', _ => some ([], .closed (cursor.skip 1))
        | _, _ => consRun character (takeRun double fuel (cursor.skip 1))

/-- Reads a quoted scalar after its opening mark, and the place behind its closing one. -/
def readQuoted (double : Bool) : Nat → List Char → Cursor → Option (List Char × Cursor)
  | 0, _, _ => none
  | fuel + 1, text, cursor =>
    if cursor.isAtDocumentMark || cursor.rest.isEmpty then none
    else
      (takeRun double (cursor.rest.length + 1) cursor).bind fun (run, ending) =>
        match ending with
        | .closed after => some (text ++ run, after)
        | .blanks place =>
          (takeBlanks 0 (place.rest.length + 1) Folding.none place).bind fun (blanks, next) =>
            readQuoted double fuel (text ++ run ++ blanks.text) next
        | .escapedBreak place =>
          -- An escaped end of a line means nothing, nor do the blanks that follow it.
          (takeBlanks 0 (place.rest.length + 1) ⟨true, [], [], []⟩ place).bind fun (blanks, next) =>
            readQuoted double fuel (text ++ run ++ blanks.text) next

/-- What becomes of the ends of lines behind a block. -/
inductive Chomping
  /-- None is kept. -/
  | strip
  /-- The first is kept. -/
  | clip
  /-- All are kept. -/
  | keep
deriving DecidableEq

/-- The sign of chomping that a text begins with, and what follows it. -/
def takeChomping : List Char → Option (Chomping × List Char)
  | '-' :: rest => some (.strip, rest)
  | '+' :: rest => some (.keep, rest)
  | _ => none

/-- The digit of indentation that a text begins with, and what follows it. -/
def takeIncrement : List Char → Option (Nat × List Char)
  | digit :: rest => if digit.isDigit then some (digitValue digit, rest) else none
  | [] => none

/-- The header of a block: its chomping and its indentation, in either
order, and what follows them. -/
def readHeader (text : List Char) : Option (Chomping × Option Nat × List Char) :=
  let found := match takeChomping text with
    | some (chomping, rest) =>
      match takeIncrement rest with
      | some (increment, after) => (chomping, some increment, after)
      | none => (chomping, none, rest)
    | none =>
      match takeIncrement text with
      | some (increment, rest) =>
        match takeChomping rest with
        | some (chomping, after) => (chomping, some increment, after)
        | none => (.clip, some increment, rest)
      | none => (.clip, none, text)
  -- A block without any indentation is no block.
  if found.2.1 == some 0 then none else some found

/-- Ends of lines and indentation before the next line of a block, while
its indentation may be unknown. -/
def takeBreaks (indent : Option Nat) : Nat → Nat → List Char → Cursor → Option (Nat × List Char × Cursor)
  | 0, _, _, _ => none
  | fuel + 1, widest, breaks, cursor =>
    let limit := match indent with
      | none => cursor.rest.length
      | some known => known - cursor.column
    let spaces := ((cursor.rest.take limit).takeWhile (· == ' ')).length
    let indented := cursor.skip spaces
    let wider := max widest indented.column
    match indented.rest with
    | [] => some (wider, breaks, indented)
    | character :: _ =>
      if character == '\t' && (indent.isNone || indent.any (indented.column < ·)) then none
      else if isBreak character then
        takeBreaks indent fuel wider (breaks ++ indented.lineText) indented.skipLine
      else some (wider, breaks, indented)

/-- The lines of a block that have been read. -/
structure BlockReading where
  /-- The text so far, without the end of its last line. -/
  text : List Char
  /-- The end of the last line. -/
  first : List Char
  /-- The empty lines behind it. -/
  further : List Char
  /-- Whether the last line starts with a blank. -/
  startsBlank : Bool
  /-- The place of the next line. -/
  place : Cursor

/-- Reads the lines of a block that have its indentation. -/
def readLines (folded : Bool) (indent : Nat) : Nat → BlockReading → Option BlockReading
  | 0, _ => none
  | fuel + 1, reading =>
    if reading.place.column != indent || reading.place.rest.isEmpty then some reading
    else
      let startsBlank := reading.place.rest.head?.any isGap
      -- In a folded block, a single end of a line between two words is a space.
      let joined :=
        if folded && reading.first == ['\n'] && !reading.startsBlank && !startsBlank then
          if reading.further.isEmpty then [' '] else []
        else reading.first
      let line := reading.place.rest.takeWhile fun character => !isBreak character
      let afterLine := reading.place.skip line.length
      let first := afterLine.lineText
      (takeBreaks (some indent) (afterLine.rest.length + 1) 0 [] afterLine.skipLine).bind
        fun (_, further, next) =>
          readLines folded indent fuel
            ⟨reading.text ++ joined ++ reading.further ++ line, first, further, startsBlank, next⟩

/-- Reads a block after the mark that opens it, given the indentation
around it, and the place behind it. -/
def readBlock (folded : Bool) (around : Int) (cursor : Cursor) : Option (List Char × Cursor) :=
  (readHeader cursor.rest).bind fun (chomping, increment, rest) =>
    let gap := (cursor.skip (cursor.rest.length - rest.length)).skipWhile isGap
    let afterHeader :=
      if gap.rest.head? == some '#' then gap.skipWhile fun character => !isBreak character else gap
    if !atLineEnd afterHeader.rest then none
    else
      let known := increment.map fun count => (max around 0).toNat + count
      let firstLine := afterHeader.skipLine
      (takeBreaks known (firstLine.rest.length + 1) 0 [] firstLine).bind fun (widest, breaks, place) =>
        let indent := known.getD (max widest (max (around + 1).toNat 1))
        (readLines folded indent (place.rest.length + 1) ⟨[], [], breaks, false, place⟩).map
          fun reading =>
            let ending := match chomping with
              | .strip => []
              | .clip => reading.first
              | .keep => reading.first ++ reading.further
            (reading.text ++ ending, reading.place)

end RecordFilter.Yaml
