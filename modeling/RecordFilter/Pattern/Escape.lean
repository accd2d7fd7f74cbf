import RecordFilter.Numeric.Digits
import RecordFilter.Pattern.Engine
import RecordFilter.Pattern.Regex

/-! What follows a backslash in a pattern: characters by name or code,
classes, and conditions on the place. -/

namespace RecordFilter.Pattern

/-- The flags in force at a place of a pattern. -/
structure Flags where
  /-- Letters match in either case. -/
  ignoreCase : Bool
  /-- The start and the end of a line count as those of the text. -/
  multiLine : Bool
  /-- The dot also matches a line feed. -/
  dotAll : Bool
  /-- Blanks and comments in the pattern are skipped. -/
  extended : Bool
  /-- Classes know the characters of all scripts, and not those of ASCII alone. -/
  unicode : Bool
  /-- A carriage return ends a line as well. -/
  carriageReturn : Bool
deriving DecidableEq

/-- The flags at the start of a pattern. -/
def Flags.initial : Flags := ⟨false, false, false, false, true, false⟩

/-- A set with what differs from its members in case alone, where case is ignored. -/
def Flags.close (flags : Flags) (characters : CharSet) : CharSet :=
  if !flags.ignoreCase then characters
  else if flags.unicode then .foldClosed characters
  else .asciiFoldClosed characters

/-- A text without the blanks and comments that are skipped in an extended pattern. -/
def Flags.skip (flags : Flags) (text : List Char) : List Char :=
  if flags.extended then go false text else text
where
  /-- Skips on, inside a comment up to the end of its line or outside one. -/
  go : Bool → List Char → List Char
    | _, [] => []
    | true, character :: rest => go (character != '\n') rest
    | false, character :: rest =>
      if character == '#' then go true rest
      else if Text.isBlank character then go false rest
      else character :: rest

/-- The characters of a class that a text begins with, without what
is skipped, and what follows them. -/
def Flags.takeVisible (flags : Flags) (belongs : Char → Bool) : Bool → List Char → List Char × List Char
  | _, [] => ([], [])
  | true, character :: rest => flags.takeVisible belongs (character != '\n') rest
  | false, character :: rest =>
    if belongs character then
      let (others, after) := flags.takeVisible belongs false rest
      (character :: others, after)
    else if flags.extended && character == '#' then flags.takeVisible belongs true rest
    else if flags.extended && Text.isBlank character then flags.takeVisible belongs false rest
    else ([], character :: rest)

/-- What an escape stands for. -/
inductive Escape
  /-- A character. -/
  | literal (character : Char)
  /-- A byte by its two hexadecimal digits. -/
  | byte (character : Char)
  /-- A class of characters. -/
  | characters (accepted : CharSet)
  /-- A condition on the place. -/
  | condition (assertion : Assertion)

namespace Escape

/-- Whether a backslash in front of a character leaves the character itself. -/
def isSuperfluous (character : Char) : Bool :=
  character.toNat < 128 && !character.isAlphanum && character != '<' && character != '>'

/-- The character with the given code, if there is one. -/
def character? (code : Nat) : Option Char :=
  if code.isValidChar then some (Char.ofNat code) else none

/-- A fixed number of characters, without what is skipped in front
of each, and what follows them. -/
def takeFixed? (flags : Flags) : Nat → List Char → Option (List Char × List Char)
  | 0, text => some ([], text)
  | count + 1, text =>
    match flags.skip text with
    | [] => none
    | character :: rest =>
      (takeFixed? flags count rest).map fun (others, after) => (character :: others, after)

/-- The characters before a closing brace, without what is skipped, and what follows the brace. -/
def takeBraced? (flags : Flags) (text : List Char) : Option (List Char × List Char) :=
  go false text
where
  /-- Goes on, inside a comment up to the end of its line or outside one. -/
  go : Bool → List Char → Option (List Char × List Char)
    | _, [] => none
    | true, character :: rest => go (character != '\n') rest
    | false, character :: rest =>
      if character == '\x7d' then some ([], rest)
      else if flags.extended && character == '#' then go true rest
      else if flags.extended && Text.isBlank character then go false rest
      else (go false rest).map fun (others, after) => (character :: others, after)

/-- The character whose code hexadecimal digits denote, before what follows them. -/
def ofCode? (found : List Char × List Char) : Option (Char × List Char) :=
  if found.1.isEmpty then none
  else
    (hexNumber? 0 found.1).bind fun code =>
      (character? code).map fun character => (character, found.2)

/-- The escape for a code of so many digits, or of any number of them in braces. -/
def code? (flags : Flags) (count : Nat) (text : List Char) : Option (Escape × List Char) :=
  match flags.skip text with
  | '\x7b' :: rest =>
    ((takeBraced? flags rest).bind ofCode?).map fun (character, after) => (literal character, after)
  | digits =>
    ((takeFixed? flags count digits).bind ofCode?).map fun (character, after) =>
      (if count == 2 then byte character else literal character, after)

/-- The words of a condition: of all scripts, or of ASCII alone. -/
def words (flags : Flags) : CharSet :=
  if flags.unicode then CharSet.word else CharSet.asciiWord

/-- A set or its complement. -/
def signed (negated : Bool) (accepted : CharSet) : CharSet :=
  if negated then .compl accepted else accepted

/-- The class of digits, blanks or word characters under a letter,
whose capital is the complement. -/
def shorthand? (flags : Flags) (letter : Char) : Option CharSet :=
  let class? : Option CharSet := match letter.toLower with
    | 'd' => some (if flags.unicode then CharSet.digit else CharSet.asciiDigit)
    | 's' => some (if flags.unicode then CharSet.blank else CharSet.asciiBlank)
    | 'w' => some (words flags)
    | _ => none
  class?.map (signed letter.isUpper)

/-- A text before and after the first occurrence of a mark in it, if there is one. -/
def cutAt? (mark : List Char) : List Char → Option (List Char × List Char)
  | [] => none
  | character :: rest =>
    if mark.isPrefixOf (character :: rest) then some ([], (character :: rest).drop mark.length)
    else (cutAt? mark rest).map fun (before, after) => (character :: before, after)

variable [Engine]

/-- The characters that the text between the braces of a property class
names, and whether it excludes them. -/
def describedClass? (text : List Char) : Option (Bool × CharSet) :=
  -- An exclamation mark before an equals sign negates, wherever
  -- else a colon or an equals sign stands.
  match cutAt? ['!', '='] text with
  | some (name, value) => (Engine.property? name (some value)).map fun named => (true, named)
  | none =>
    match (cutAt? [':'] text).or (cutAt? ['='] text) with
    | some (name, value) => (Engine.property? name (some value)).map fun named => (false, named)
    | none => (Engine.property? text none).map fun named => (false, named)

/-- The class of a property: a single letter, or a description in braces. -/
def propertyClass? (flags : Flags) (negated : Bool) (text : List Char) :
    Option (Escape × List Char) :=
  let found : Option ((Bool × CharSet) × List Char) := match flags.skip text with
    | '\x7b' :: rest =>
      (takeBraced? flags rest).bind fun (description, after) =>
        (describedClass? description).map fun described => (described, after)
    | letter :: after =>
      (Engine.property? [letter] none).map fun named => ((false, named), after)
    | [] => none
  if flags.unicode then
    -- Where case is ignored, the property is closed first and then negated.
    found.map fun ((excluded, named), after) =>
      (.characters (signed (negated != excluded) (flags.close named)), after)
  else none

/-- The special conditions on word boundaries, by their names in braces. -/
def specialBoundary? (flags : Flags) (name : List Char) : Option Assertion :=
  match String.ofList name with
  | "start" => some (.wordStart (words flags))
  | "end" => some (.wordEnd (words flags))
  | "start-half" => some (.wordStartHalf (words flags))
  | "end-half" => some (.wordEndHalf (words flags))
  | _ => none

/-- A word boundary, which may be followed by the name of a special one in braces. -/
def boundary? (flags : Flags) (text : List Char) : Option (Escape × List Char) :=
  let plain := condition (.wordBoundary (words flags))
  match text with
  | '\x7b' :: rest =>
    let (name, closed) :=
      flags.takeVisible (fun character => character.isAlpha || character == '-') false rest
    -- Without a name the brace starts a repetition.
    match name, closed with
    | [], [] => none
    | [], _ => some (plain, text)
    | _, '\x7d' :: after =>
      (specialBoundary? flags name).map fun assertion => (condition assertion, after)
    | _, _ => none
  | _ => some (plain, text)

/-- The characters that have a letter as their escape. -/
def named? : Char → Option Char
  | 'a' => some '\x07'
  | 'f' => some '\x0c'
  | 't' => some '\t'
  | 'n' => some '\n'
  | 'r' => some '\r'
  | 'v' => some '\x0b'
  | _ => none

/-- Reads an escape after its backslash, and what follows it. -/
def read (flags : Flags) : List Char → Option (Escape × List Char)
  | [] => none
  | 'x' :: rest => code? flags 2 rest
  | 'u' :: rest => code? flags 4 rest
  | 'U' :: rest => code? flags 8 rest
  | 'p' :: rest => propertyClass? flags false rest
  | 'P' :: rest => propertyClass? flags true rest
  | 'A' :: rest => some (condition .startOfText, rest)
  | 'z' :: rest => some (condition .endOfText, rest)
  | 'b' :: rest => boundary? flags rest
  | 'B' :: rest => some (condition (.noWordBoundary (words flags)), rest)
  | '<' :: rest => some (condition (.wordStart (words flags)), rest)
  | '>' :: rest => some (condition (.wordEnd (words flags)), rest)
  | name :: rest =>
    if isSuperfluous name then some (literal name, rest)
    else
      match shorthand? flags name with
      | some accepted => some (.characters accepted, rest)
      | none => (named? name).map fun character => (literal character, rest)

end Escape

end RecordFilter.Pattern
