import RecordFilter.Numeric.Power
import RecordFilter.Pattern.Class

/-! Patterns as text: alternatives of sequences of repeated items, with groups and flags. -/

namespace RecordFilter.Pattern

/-- What carries over from one part of a pattern to the next. -/
structure Scope where
  /-- The flags in force. -/
  flags : Flags
  /-- The names of the groups so far, none of which may come again. -/
  names : List (List Char)

/-- What reading a part of a pattern gives: an expression, the scope after it, and the rest. -/
abbrev Reading := Option (Regex × Scope × List Char)

/-- The flags with one of them switched on or off, if the letter names a flag. -/
def Flags.set? (flags : Flags) (letter : Char) (value : Bool) : Option Flags :=
  match letter with
  | 'i' => some { flags with ignoreCase := value }
  | 'm' => some { flags with multiLine := value }
  | 's' => some { flags with dotAll := value }
  | 'x' => some { flags with extended := value }
  | 'u' => some { flags with unicode := value }
  | 'R' => some { flags with carriageReturn := value }
  -- Which of several matches is preferred makes no difference to whether there is one.
  | 'U' => some flags
  | _ => none

/-- How far the reading of flags has come. -/
structure FlagList where
  /-- The flags that result. -/
  flags : Flags
  /-- The letters so far, none of which may come again. -/
  letters : List Char
  /-- Whether a minus sign has switched to turning flags off. -/
  negated : Bool
  /-- Whether that minus sign came last. -/
  dangling : Bool

/-- Reads flags up to the colon or parenthesis that ends them, and what follows it. -/
def readFlags (state : FlagList) : List Char → Option (FlagList × Char × List Char)
  | [] => none
  | '-' :: rest =>
    if state.negated then none else readFlags { state with negated := true, dangling := true } rest
  | letter :: rest =>
    if letter == ':' || letter == ')' then
      if state.dangling then none else some (state, letter, rest)
    else if state.letters.contains letter then none
    else
      (state.flags.set? letter (!state.negated)).bind fun flags =>
        readFlags { state with flags, letters := letter :: state.letters, dangling := false } rest

/-- Whether a character may stand in the name of a group. -/
def isNameCharacter (isFirst : Bool) (character : Char) : Bool :=
  character == '_' || CharSet.alphabetic.holds character ||
    (!isFirst && (['.', '[', ']'].contains character ||
      (CharSet.categories Category.numbers).holds character))

/-- Reads the name of a group up to its closing bracket, and what follows it. -/
def readName (text : List Char) : Option (List Char × List Char) :=
  let (name, closed) := text.span (· != '>')
  match name, closed with
  | first :: others, _ :: after =>
    if isNameCharacter true first && others.all (isNameCharacter false) then some (name, after)
    else none
  | _, _ => none

/-- What an opening parenthesis begins. -/
inductive Opening
  /-- A group, whose content follows in the given scope. -/
  | group (scope : Scope) (rest : List Char)
  /-- Flags for the rest of the group around them. -/
  | flags (scope : Scope) (rest : List Char)

/-- Opens a group whose name is read first, unless the name is taken. -/
def openNamed (scope : Scope) (text : List Char) : Option Opening :=
  (readName text).bind fun (name, after) =>
    if scope.names.contains name then none
    else some (.group { scope with names := name :: scope.names } after)

/-- Reads what stands between an opening parenthesis and the content of its group. -/
def readOpening (scope : Scope) (text : List Char) : Option Opening :=
  match text with
  | '?' :: 'P' :: '<' :: rest => openNamed scope rest
  | '?' :: '<' :: '=' :: _ => none
  | '?' :: '<' :: '!' :: _ => none
  | '?' :: '<' :: rest => openNamed scope rest
  | '?' :: rest =>
    (readFlags ⟨scope.flags, [], false, false⟩ rest).bind fun (read, closing, after) =>
      let changed := { scope with flags := read.flags }
      if closing == ':' then some (.group changed after)
      else if read.letters.isEmpty then none
      else some (.flags changed after)
  | content => some (.group scope content)

/-- The condition of a caret. -/
def lineStart (flags : Flags) : Assertion :=
  if flags.multiLine then .startOfLine flags.carriageReturn else .startOfText

/-- The condition of a dollar sign. -/
def lineEnd (flags : Flags) : Assertion :=
  if flags.multiLine then .endOfLine flags.carriageReturn else .endOfText

/-- The characters that a dot matches, if it may stand here at all. -/
def dot? (flags : Flags) : Option CharSet :=
  -- A dot that knows bytes alone would match a part of a longer character.
  if !flags.unicode then none
  else if flags.dotAll then some CharSet.anything
  else if flags.carriageReturn then some (.compl (CharSet.listed ['\r', '\n']))
  else some (.compl (CharSet.single '\n'))

/-- The expression for a single character. -/
def literal (flags : Flags) (character : Char) : Regex :=
  if !flags.unicode && character.toNat ≥ 128 then .character (CharSet.single character)
  else .character (flags.close (CharSet.single character))

variable [Engine]

/-- Reads a character, a dot, a caret, a dollar sign or an escape, and what follows it. -/
def readPrimitive (flags : Flags) : List Char → Option (Regex × List Char)
  | [] => none
  | '\\' :: rest =>
    (Escape.read flags rest).bind fun (escape, after) =>
      match escape with
      | .literal character => some (literal flags character, after)
      | .byte character =>
        if flags.unicode || character.toNat < 128 then some (literal flags character, after)
        else none
      | .characters accepted =>
        (Class.finish? flags accepted).map fun found => (.character found, after)
      | .condition assertion => some (.assertion assertion, after)
  | '.' :: rest => (dot? flags).map fun accepted => (.character accepted, rest)
  | '^' :: rest => some (.assertion (lineStart flags), rest)
  | '$' :: rest => some (.assertion (lineEnd flags), rest)
  | character :: rest => some (literal flags character, rest)

/-- The greatest count of a repetition. -/
def greatestCount : Nat := twoTo 32 - 1

/-- Reads a count with blanks around it, and what follows it. -/
def readCount (flags : Flags) (text : List Char) : Option (Nat × List Char) :=
  let (digits, rest) := flags.takeVisible Char.isDigit false (text.dropWhile Text.isBlank)
  if digits.isEmpty || greatestCount < ofDigits digits then none
  else some (ofDigits digits, rest.dropWhile Text.isBlank)

/-- A text without the question mark that makes a repetition prefer fewer rounds. -/
def dropLazy : List Char → List Char
  | '?' :: rest => rest
  | text => text

/-- The least and the greatest number of rounds of a repetition, and what follows it. -/
abbrev Bounds := Nat × Option Nat × List Char

/-- Reads the counts of a repetition after its opening brace. -/
def readCounts (flags : Flags) (text : List Char) : Option Bounds :=
  (readCount flags (flags.skip text)).bind fun (least, rest) =>
    match rest with
    | '\x7d' :: after => some (least, some least, dropLazy (flags.skip after))
    | ',' :: upper =>
      match flags.skip upper with
      | '\x7d' :: after => some (least, none, dropLazy (flags.skip after))
      | counted =>
        (readCount flags counted).bind fun (most, closing) =>
          match closing with
          | '\x7d' :: after =>
            if least ≤ most then some (least, some most, dropLazy (flags.skip after)) else none
          | _ => none
    | _ => none

/-- Reads the sign of a repetition, which is nothing if the text does not begin with one. -/
def readRepetition (flags : Flags) : List Char → Option (Option Bounds)
  | '*' :: rest => some (some (0, none, dropLazy rest))
  | '+' :: rest => some (some (1, none, dropLazy rest))
  | '?' :: rest => some (some (0, some 1, dropLazy rest))
  | '\x7b' :: rest => (readCounts flags rest).map some
  | _ => some none

/-- The last item of a sequence, if there is one, before the rest of it. -/
def before (last : Option Regex) (rest : Regex) : Regex :=
  match last with
  | none => rest
  | some item => .sequence item rest

mutual

/-- Reads alternatives up to a closing parenthesis or the end of the pattern. -/
def readAlternatives : Nat → Scope → List Char → Reading
  | 0, _, _ => none
  | fuel + 1, scope, text =>
    (readSequence fuel scope none text).bind fun (first, afterFirst, rest) =>
      match rest with
      | '|' :: others =>
        (readAlternatives fuel afterFirst others).map fun (second, afterSecond, after) =>
          (.either first second, afterSecond, after)
      | other => some (first, afterFirst, other)

/-- Reads the rest of a sequence, whose last item so far may still be repeated. -/
def readSequence : Nat → Scope → Option Regex → List Char → Reading
  | 0, _, _, _ => none
  | fuel + 1, scope, last, text =>
    match scope.flags.skip text with
    | [] => some (last.getD .empty, scope, [])
    | '|' :: rest => some (last.getD .empty, scope, '|' :: rest)
    | ')' :: rest => some (last.getD .empty, scope, ')' :: rest)
    | other =>
      (readRepetition scope.flags other).bind fun repetition =>
        match repetition with
        | some (least, most, after) =>
          -- There must be something to repeat.
          last.bind fun item => readSequence fuel scope (some (.repeated item least most)) after
        | none =>
          (readItem fuel scope other).bind fun (item, afterItem, rest) =>
            (readSequence fuel afterItem item rest).map fun (others, afterOthers, after) =>
              (before last others, afterOthers, after)

/-- Reads one item of a sequence, which flags alone are not. -/
def readItem : Nat → Scope → List Char → Option (Option Regex × Scope × List Char)
  | 0, _, _ => none
  | fuel + 1, scope, text =>
    match text with
    | '(' :: rest =>
      (readOpening scope (scope.flags.skip rest)).bind fun opening =>
        match opening with
        | .flags changed after => some (none, changed, after)
        | .group inner content =>
          (readAlternatives fuel inner content).bind fun (group, afterGroup, closing) =>
            match closing with
            | ')' :: after => some (some group, { afterGroup with flags := scope.flags }, after)
            | _ => none
    | '[' :: rest =>
      (Class.read scope.flags (2 * rest.length + 2) rest).bind fun (accepted, after) =>
        (Class.finish? scope.flags accepted).map fun found => (some (.character found), scope, after)
    | other =>
      (readPrimitive scope.flags other).map fun (item, after) => (some item, scope, after)

end

/-- Reads a whole text as a pattern. -/
def read (text : List Char) : Option Regex :=
  -- At most three calls are made for every character.
  match readAlternatives (3 * text.length + 3) ⟨Flags.initial, []⟩ text with
  | some (regex, _, []) => some regex
  | _ => none

/-- Compiles a whole text as a pattern: it must be one, and within the limits of the engine. -/
def compile? (text : List Char) : Option Regex :=
  if Engine.exceeds text then none else read text

end RecordFilter.Pattern
