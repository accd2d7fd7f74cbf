import RecordFilter.Expression.Printer
import RecordFilter.Json.Written

/-! The grammar of expressions: clauses of a key, an operator and an
operand, and the words between them. -/

namespace RecordFilter

/-- A key as written. -/
inductive WrittenKey
  /-- A key of word characters. -/
  | bare (name : List Char)
  /-- A key between quotation marks, which belong to the text. -/
  | quoted (text : List Char)
deriving DecidableEq

/-- A clause as written. -/
structure WrittenClause where
  /-- The key. -/
  key : WrittenKey
  /-- The token of the operator. -/
  operator : List Char
  /-- The text of the operand, if there is one. -/
  operand : Option (List Char)
deriving DecidableEq

/-- What joins two clauses. -/
inductive Connective
  /-- The clause belongs to the same group. -/
  | conjunction
  /-- The clause starts a new group. -/
  | disjunction
deriving DecidableEq

namespace Expression

/-- What was taken off a text to leave the given rest. -/
def taken (text rest : List Char) : List Char :=
  -- The rest is an end of the text, so its length says where the front stops.
  text.take (text.length - rest.length)

/-- Whether a text continues a word. -/
def continuesWord : List Char → Bool
  | [] => false
  -- Only the next character decides, whatever comes behind it.
  | character :: _ => isWordCharacter character

/-- What follows a word at the start of a text, unless the word goes on. -/
def skipWord (word text : List Char) : Option (List Char) :=
  -- A longer word that begins alike is another word.
  if word.isPrefixOf text && !continuesWord (text.drop word.length) then some (text.drop word.length)
  else none

/-- What follows a quoted text whose opening mark has been taken:
a backslash protects any character. -/
def skipQuoted : List Char → Option (List Char)
  -- Without a closing mark there is no quoted text.
  | [] => none
  | '"' :: rest => some rest
  | '\\' :: _ :: rest => skipQuoted rest
  -- A backslash that is left here is the last character of the text.
  | character :: rest => if character == '\\' then none else skipQuoted rest

/-- What follows a point with digits after it, or the text itself. -/
def skipFraction (text : List Char) : List Char :=
  match text with
  | '.' :: rest =>
    let (digits, after) := spanDigits rest
    -- A point without digits is no fraction, and stays where it is.
    if digits.isEmpty then text else after
  | _ => text

/-- What follows an exponent, or the text itself. -/
def skipExponent (text : List Char) : List Char :=
  match text with
  | [] => []
  | marker :: rest =>
    -- The sign may be left out.
    let unsigned := match rest with
      | '+' :: more => more
      | '-' :: more => more
      | more => more
    let (digits, after) := spanDigits unsigned
    -- A marker without digits is no exponent, and stays where it is.
    if (marker == 'e' || marker == 'E') && !digits.isEmpty then after else text

/-- What follows a number at the start of a text, unless a word goes on there. -/
def skipNumber (text : List Char) : Option (List Char) :=
  let unsigned := match text with
    | '-' :: rest => rest
    | other => other
  -- Leading zeros are taken here, and refused when the number is decoded.
  let (whole, afterWhole) := spanDigits unsigned
  let rest := skipExponent (skipFraction afterWhole)
  if whole.isEmpty || continuesWord rest then none else some rest

mutual

/-- What follows a literal at the start of a text. -/
def skipLiteral : Nat → List Char → Option (List Char)
  -- Calls enough are made for every text, so this never cuts one short.
  | 0, _ => none
  | fuel + 1, text =>
    match text with
    | '"' :: rest => skipQuoted rest
    -- The first letter settles which word it can be.
    | 't' :: _ => skipWord ['t', 'r', 'u', 'e'] text
    | 'f' :: _ => skipWord ['f', 'a', 'l', 's', 'e'] text
    | 'n' :: _ => skipWord ['n', 'u', 'l', 'l'] text
    -- A container may be empty, with nothing but space inside.
    | '[' :: rest =>
      match skipSpace rest with
      | ']' :: after => some after
      | inner => skipItems fuel inner
    | '\x7b' :: rest =>
      match skipSpace rest with
      | '\x7d' :: after => some after
      | inner => skipMembers fuel inner
    -- Anything else is a number or no literal at all.
    | other => skipNumber other

/-- What follows the items of an array and its closing bracket. -/
def skipItems : Nat → List Char → Option (List Char)
  | 0, _ => none
  | fuel + 1, text =>
    (skipLiteral fuel text).bind fun afterItem =>
      match skipSpace afterItem with
      -- A comma asks for one more item, so none may stand before the bracket.
      | ',' :: rest => skipItems fuel (skipSpace rest)
      | ']' :: after => some after
      | _ => none

/-- What follows the members of an object and its closing brace. -/
def skipMembers : Nat → List Char → Option (List Char)
  | 0, _ => none
  | fuel + 1, text =>
    (skipMember fuel text).bind fun afterMember =>
      match skipSpace afterMember with
      -- A comma asks for one more member, so none may stand before the brace.
      | ',' :: rest => skipMembers fuel (skipSpace rest)
      | '\x7d' :: after => some after
      | _ => none

/-- What follows a member of an object. -/
def skipMember : Nat → List Char → Option (List Char)
  | 0, _ => none
  | fuel + 1, text =>
    match text with
    | '"' :: rest =>
      (skipQuoted rest).bind fun afterKey =>
        match skipSpace afterKey with
        -- Space may stand on either side of the colon.
        | ':' :: value => skipLiteral fuel (skipSpace value)
        | _ => none
    | _ => none

end

/-- Reads a literal at the start of a text, and what follows it. -/
def readLiteral (text : List Char) : Option (List Char × List Char) :=
  -- At most three calls are made for every character.
  (skipLiteral (3 * text.length + 3) text).map fun rest => (taken text rest, rest)

/-- Reads a key, and what follows it. -/
def readKey (text : List Char) : Option (WrittenKey × List Char) :=
  match text with
  -- The marks belong to the key, which is decoded with them later.
  | '"' :: rest => (skipQuoted rest).map fun after => (.quoted (taken text after), after)
  | other =>
    -- The longest run of word characters is the key.
    let (name, after) := other.span isWordCharacter
    if name.isEmpty then none else some (.bare name, after)

/-- Whether a character may stand in an operator of signs. -/
def isSign (character : Char) : Bool :=
  ['=', '!', '<', '>', '~'].contains character

/-- Reads an operator, which is a run of signs or a run of letters, and what follows it. -/
def readOperator (text : List Char) : Option (List Char × List Char) :=
  let (signs, afterSigns) := text.span isSign
  -- Letters are tried only where no sign stands.
  if signs.isEmpty then
    let (letters, afterLetters) := text.span Char.isAlpha
    if letters.isEmpty then none else some (letters, afterLetters)
  else some (signs, afterSigns)

/-- Reads a clause, and what follows it. -/
def readClause (text : List Char) : Option (WrittenClause × List Char) :=
  (readKey text).bind fun (key, afterKey) =>
    (readOperator (skipSpace afterKey)).map fun (operator, afterOperator) =>
      -- Where no literal follows, the operand is missing and the space is not taken.
      match readLiteral (skipSpace afterOperator) with
      | some (operand, after) => (⟨key, operator, some operand⟩, after)
      | none => (⟨key, operator, none⟩, afterOperator)

/-- What follows a word in letters of either case, unless the word goes on. -/
def skipWordAnyCase (word text : List Char) : Option (List Char) :=
  -- The word is given in small letters.
  let rest := text.drop word.length
  if (text.take word.length).map Char.toLower == word && !continuesWord rest then some rest else none

/-- Reads what joins two clauses, a doubled sign or a word, and what follows it. -/
def readConnective (text : List Char) : Option (Connective × List Char) :=
  match text with
  | '&' :: '&' :: rest => some (.conjunction, rest)
  | '|' :: '|' :: rest => some (.disjunction, rest)
  | other =>
    match skipWordAnyCase ['a', 'n', 'd'] other with
    | some rest => some (.conjunction, rest)
    | none => (skipWordAnyCase ['o', 'r'] other).map fun rest => (.disjunction, rest)

/-- Reads further clauses, each with what joins it to the one before, as long as there are any. -/
def readFurther : Nat → List Char → List (Connective × WrittenClause) × List Char
  | 0, text => ([], text)
  | fuel + 1, text =>
    match readConnective (skipSpace text) with
    | none => ([], text)
    | some (connective, afterConnective) =>
      match readClause (skipSpace afterConnective) with
      -- A connective without a clause behind it is not taken either.
      | none => ([], text)
      | some (clause, afterClause) =>
        let (others, rest) := readFurther fuel afterClause
        ((connective, clause) :: others, rest)

/-- Clauses cut into groups: a disjunction closes the group before it. -/
def grouped (first : WrittenClause) : List (Connective × WrittenClause) → List (List WrittenClause)
  | [] => [[first]]
  | (.disjunction, next) :: rest => [first] :: grouped next rest
  -- The first clause goes in front of the group that the next one opens.
  | (.conjunction, next) :: rest =>
    match grouped next rest with
    | [] => [[first]]
    | group :: others => (first :: group) :: others

/-- Reads a whole text as groups of clauses, none for a text of space alone. -/
def readGroups (text : List Char) : Option (List (List WrittenClause)) :=
  let start := skipSpace text
  match readClause start with
  -- A text of space alone is the empty expression.
  | none => if start.isEmpty then some [] else none
  | some (first, afterFirst) =>
    -- Every further clause takes at least one character.
    let (others, rest) := readFurther afterFirst.length afterFirst
    if (skipSpace rest).isEmpty then some (grouped first others) else none

end Expression

end RecordFilter
