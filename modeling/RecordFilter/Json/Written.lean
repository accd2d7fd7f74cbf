import RecordFilter.Numeric.Digits

/-! Documents as they are written: the grammar, before numbers, escapes
and repeated keys get their meaning. -/

namespace RecordFilter

/-- A part of a string literal. -/
inductive StringPart
  /-- A character that stands for itself, or that a short escape names. -/
  | plain (character : Char)
  /-- A UTF-16 unit written with four hexadecimal digits. -/
  | unit (value : Nat)
deriving DecidableEq

/-- A number literal, taken apart but not yet evaluated. -/
structure NumberLiteral where
  /-- Whether a minus sign stands in front. -/
  negative : Bool
  /-- The digits before the point. -/
  whole : List Char
  /-- The digits after the point, if there is one. -/
  fraction : Option (List Char)
  /-- Whether the exponent is negative, and its digits, if there is one. -/
  exponent : Option (Bool × List Char)
deriving DecidableEq

/-- A document as written. -/
inductive Written
  /-- The word for null. -/
  | null
  /-- One of the two words for truth values. -/
  | bool (value : Bool)
  /-- A number literal. -/
  | number (literal : NumberLiteral)
  /-- A string literal. -/
  | string (parts : List StringPart)
  /-- An array in brackets. -/
  | array (items : List Written)
  /-- An object in braces, with every member that is written. -/
  | object (members : List (List StringPart × Written))

/-- Whether a character may stand between the tokens of a document or of an expression. -/
def isSpace (character : Char) : Bool :=
  character == ' ' || character == '\t' || character == '\r' || character == '\n'

/-- A text without the space at its start. -/
def skipSpace (text : List Char) : List Char :=
  text.dropWhile isSpace

namespace Written

/-- The character that a short escape names. -/
def shortEscape? : Char → Option Char
  | '"' => some '"'
  | '\\' => some '\\'
  -- The slash may be escaped, although it never has to be.
  | '/' => some '/'
  | 'b' => some '\x08'
  | 'f' => some '\x0c'
  | 'n' => some '\n'
  | 'r' => some '\r'
  | 't' => some '\t'
  | _ => none

/-- The parts of a string literal after its opening quotation mark,
and what follows the closing one. -/
def readParts : List Char → Option (List StringPart × List Char)
  | [] => none
  | '"' :: rest => some ([], rest)
  -- Four digits are taken as they come, even those of a lone half of a pair.
  | '\\' :: 'u' :: first :: second :: third :: fourth :: rest =>
    (hexNumber? 0 [first, second, third, fourth]).bind fun value =>
      (readParts rest).map fun (parts, after) => (.unit value :: parts, after)
  -- Any other letter behind a backslash must name an escape.
  | '\\' :: name :: rest =>
    (shortEscape? name).bind fun character =>
      (readParts rest).map fun (parts, after) => (.plain character :: parts, after)
  | character :: rest =>
    -- A control character or a lone backslash has no place in a literal.
    if character == '\\' || character.toNat < 32 then none
    else (readParts rest).map fun (parts, after) => (.plain character :: parts, after)

/-- A minus sign in front of a text: whether it is there, and the rest. -/
def takeMinus : List Char → Bool × List Char
  | '-' :: rest => (true, rest)
  | text => (false, text)

/-- Whether digits may stand before the point: at least one, and no zero in front of others. -/
def isWhole : List Char → Bool
  | [] => false
  -- No other number may start with a zero.
  | ['0'] => true
  | first :: _ => first != '0'

/-- The fraction that a text begins with, if any, and what follows it. -/
def readFraction : List Char → Option (Option (List Char) × List Char)
  | '.' :: rest =>
    let (fraction, after) := spanDigits rest
    -- A point asks for digits behind it.
    if fraction.isEmpty then none else some (some fraction, after)
  | text => some (none, text)

/-- The sign of an exponent: whether it is a minus, and the rest. -/
def takeExponentSign : List Char → Bool × List Char
  | '-' :: rest => (true, rest)
  | '+' :: rest => (false, rest)
  | text => (false, text)

/-- The exponent that a text begins with, if any, and what follows it. -/
def readExponent : List Char → Option (Option (Bool × List Char) × List Char)
  | [] => some (none, [])
  | marker :: rest =>
    if marker == 'e' || marker == 'E' then
      -- A marker asks for digits, with or without a sign in front.
      let (negative, unsigned) := takeExponentSign rest
      let (exponent, after) := spanDigits unsigned
      if exponent.isEmpty then none else some (some (negative, exponent), after)
    else some (none, marker :: rest)

/-- The number literal that a text begins with, and what follows it. -/
def readNumber (text : List Char) : Option (NumberLiteral × List Char) :=
  let (negative, unsigned) := takeMinus text
  -- Sign, digits, fraction and exponent follow one another without space.
  let (whole, afterWhole) := spanDigits unsigned
  if isWhole whole then
    (readFraction afterWhole).bind fun (fraction, afterFraction) =>
      (readExponent afterFraction).map fun (exponent, after) =>
        (⟨negative, whole, fraction, exponent⟩, after)
  else none

mutual

/-- The document that a text begins with, and what follows it. -/
def readValue : Nat → List Char → Option (Written × List Char)
  | 0, _ => none
  | fuel + 1, text =>
    -- Space in front of a value is skipped here, and space behind it by whoever goes on.
    match skipSpace text with
    | 'n' :: 'u' :: 'l' :: 'l' :: rest => some (null, rest)
    | 't' :: 'r' :: 'u' :: 'e' :: rest => some (bool true, rest)
    | 'f' :: 'a' :: 'l' :: 's' :: 'e' :: rest => some (bool false, rest)
    | '"' :: rest => (readParts rest).map fun (parts, after) => (string parts, after)
    -- A container may be empty, with nothing but space inside.
    | '[' :: rest =>
      match skipSpace rest with
      | ']' :: after => some (array [], after)
      | inner => (readItems fuel inner).map fun (items, after) => (array items, after)
    | '\x7b' :: rest =>
      match skipSpace rest with
      | '\x7d' :: after => some (object [], after)
      | inner => (readMembers fuel inner).map fun (members, after) => (object members, after)
    -- Anything else is a number or no document at all.
    | other => (readNumber other).map fun (literal, after) => (number literal, after)

/-- The items of an array up to its closing bracket, at least one. -/
def readItems : Nat → List Char → Option (List Written × List Char)
  | 0, _ => none
  | fuel + 1, text =>
    (readValue fuel text).bind fun (item, afterItem) =>
      match skipSpace afterItem with
      -- A comma asks for one more item.
      | ',' :: rest => (readItems fuel rest).map fun (items, after) => (item :: items, after)
      | ']' :: after => some ([item], after)
      | _ => none

/-- The members of an object up to its closing brace, at least one. -/
def readMembers : Nat → List Char → Option (List (List StringPart × Written) × List Char)
  | 0, _ => none
  | fuel + 1, text =>
    (readMember fuel text).bind fun (member, afterMember) =>
      match skipSpace afterMember with
      | ',' :: rest =>
        (readMembers fuel rest).map fun (members, after) => (member :: members, after)
      | '\x7d' :: after => some ([member], after)
      | _ => none

/-- One member of an object: a string literal, a colon and a value. -/
def readMember : Nat → List Char → Option ((List StringPart × Written) × List Char)
  | 0, _ => none
  | fuel + 1, text =>
    match skipSpace text with
    | '"' :: rest =>
      -- The key is a string like any other.
      (readParts rest).bind fun (key, afterKey) =>
        match skipSpace afterKey with
        | ':' :: rest => (readValue fuel rest).map fun (value, after) => ((key, value), after)
        | _ => none
    | _ => none

end

/-- Reads a whole text as one document, with space around it. -/
def read (text : List Char) : Option Written :=
  -- Every call but one in two or three consumes a character, so this much fuel never runs out.
  match readValue (3 * text.length + 3) text with
  | some (written, rest) => if (skipSpace rest).isEmpty then some written else none
  | none => none

end Written

end RecordFilter
