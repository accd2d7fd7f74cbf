import RecordFilter.Pattern.Escape

/-! Bracketed classes of characters in a pattern: ranges, named and
nested classes, and set operations. -/

namespace RecordFilter.Pattern

/-- An operation between two sets in a class. -/
inductive SetOperation
  /-- What belongs to both sets. -/
  | intersection
  /-- What belongs to the first set alone. -/
  | difference
  /-- What belongs to just one of the sets. -/
  | symmetricDifference
deriving DecidableEq

namespace SetOperation

/-- The result of an operation. -/
def apply : SetOperation → CharSet → CharSet → CharSet
  | intersection, left, right => .inter left right
  | difference, left, right => .inter left (.compl right)
  | symmetricDifference, left, right => CharSet.symmDiff left right

/-- The operation that a doubled character stands for. -/
def ofDoubled? : Char → Option SetOperation
  | '&' => some intersection
  | '-' => some difference
  | '~' => some symmetricDifference
  | _ => none

end SetOperation

namespace Class

/-- A finished class, unless it would match a single byte of a longer character. -/
def finish? (flags : Flags) (characters : CharSet) : Option CharSet :=
  if flags.unicode then some characters
  else if (List.range 128).any (fun code => characters.holds (Char.ofNat (128 + code))) then none
  else some (.inter characters CharSet.ascii)

/-- The named classes of ASCII characters. -/
def asciiClass? : String → Option CharSet
  | "alnum" => some (.union CharSet.asciiLetter CharSet.asciiDigit)
  | "alpha" => some CharSet.asciiLetter
  | "ascii" => some CharSet.ascii
  | "blank" => some (CharSet.listed [' ', '\t'])
  | "cntrl" => some (.union (.range (Char.ofNat 0) '\x1f') (CharSet.single '\x7f'))
  | "digit" => some CharSet.asciiDigit
  | "graph" => some (.range '!' '~')
  | "lower" => some (.range 'a' 'z')
  | "print" => some (.range ' ' '~')
  | "punct" =>
    some (CharSet.unions [.range '!' '/', .range ':' '@', .range '[' '\x60', .range '\x7b' '~'])
  | "space" => some CharSet.asciiBlank
  | "upper" => some (.range 'A' 'Z')
  | "word" => some CharSet.asciiWord
  | "xdigit" => some (CharSet.unions [CharSet.asciiDigit, .range 'A' 'F', .range 'a' 'f'])
  | _ => none

/-- The class with the name that stands before a colon and a bracket, or its complement. -/
def namedBefore? (flags : Flags) (negated : Bool) (text : List Char) : Option (CharSet × List Char) :=
  let (name, closed) := text.span (· != ':')
  match closed with
  | ':' :: ']' :: after =>
    -- Where case is ignored, the class is closed first and then negated.
    (asciiClass? (String.ofList name)).map fun found =>
      (Escape.signed negated (flags.close found), after)
  | _ => none

/-- A named class of ASCII characters between colons, after its opening bracket. -/
def readNamed? (flags : Flags) : List Char → Option (CharSet × List Char)
  | ':' :: '^' :: rest => namedBefore? flags true rest
  | ':' :: rest => namedBefore? flags false rest
  | _ => none

/-- One item of a class: a character, which may start or end a range, or a whole set. -/
inductive Item
  /-- A single character. -/
  | single (character : Char)
  /-- A set by its escape. -/
  | set (characters : CharSet)

/-- The character of a class, which must be ASCII where classes know no other. -/
def character? (flags : Flags) (character : Char) : Option Item :=
  if flags.unicode || character.toNat < 128 then some (.single character) else none

variable [Engine]

/-- Reads one item of a class, and what follows it. -/
def readItem (flags : Flags) : List Char → Option (Item × List Char)
  | [] => none
  | '\\' :: rest =>
    (Escape.read flags rest).bind fun (escape, after) =>
      match escape with
      | .literal character => (character? flags character).map fun item => (item, after)
      | .byte character => some (.single character, after)
      | .characters found => some (.set found, after)
      | .condition _ => none
  | character :: rest => (character? flags character).map fun item => (item, rest)

/-- Whether a text after an item goes on with a range, and not with a hyphen of its own. -/
def rangeFollows (flags : Flags) : List Char → Bool
  | '-' :: rest =>
    match flags.skip rest with
    | ']' :: _ => false
    | '-' :: _ => false
    | _ => true
  | _ => false

/-- The set of an item alone. -/
def Item.toSet : Item → CharSet
  | single character => CharSet.single character
  | set characters => characters

/-- Reads an item or a range of a class, and what follows it. -/
def readRange (flags : Flags) (text : List Char) : Option (CharSet × List Char) :=
  (readItem flags text).bind fun (first, afterFirst) =>
    let rest := flags.skip afterFirst
    if rangeFollows flags rest then
      match first, readItem flags (flags.skip (rest.drop 1)) with
      | .single low, some (.single high, after) =>
        if low ≤ high then some (.range low high, after) else none
      | _, _ => none
    else some (first.toSet, rest)

/-- The hyphens at the start of a class, and what follows them. -/
def takeHyphens (flags : Flags) : Nat → List Char → CharSet × List Char
  | fuel + 1, '-' :: rest =>
    let (_, after) := takeHyphens flags fuel (flags.skip rest)
    (CharSet.single '-', after)
  | _, text => (.nothing, text)

/-- Whether a class begins with the caret that negates it, and what follows. -/
def takeCaret (flags : Flags) (text : List Char) : Bool × List Char :=
  match flags.skip text with
  | '^' :: rest => (true, flags.skip rest)
  | rest => (false, rest)

/-- The hyphens at the start of a class or else a bracket in their place, and what follows. -/
def takeBracket (hyphens : CharSet) (items : List Char) : CharSet × List Char :=
  -- A closing bracket in the first place is an ordinary character.
  match hyphens, items with
  | .nothing, ']' :: rest => (CharSet.single ']', rest)
  | _, _ => (hyphens, items)

/-- What stands in front of the items of a class: whether it is negated,
hyphens, and a first bracket. -/
def opening (flags : Flags) (text : List Char) : Bool × CharSet × List Char :=
  let (negated, unsigned) := takeCaret flags text
  let (hyphens, items) := takeHyphens flags unsigned.length unsigned
  (negated, takeBracket hyphens items)

/-- The sets read so far in a class: a finished left side with its
operation, and the items after it. -/
structure Pending where
  /-- The left side of an operation that still lacks its right one. -/
  left : Option (SetOperation × CharSet)
  /-- The union of the items since. -/
  items : CharSet

/-- The set of everything read so far. -/
def Pending.total (flags : Flags) (pending : Pending) : CharSet :=
  match pending.left with
  | none => pending.items
  | some (operation, left) => operation.apply (flags.close left) (flags.close pending.items)

/-- One more set among the items. -/
def Pending.add (pending : Pending) (found : CharSet) : Pending :=
  { pending with items := .union pending.items found }

/-- The operation that a text begins with, if its character is doubled, and what follows it. -/
def operation? : List Char → Option (SetOperation × List Char)
  | first :: second :: rest =>
    if first == second then (SetOperation.ofDoubled? first).map fun found => (found, rest) else none
  | _ => none

mutual

/-- Reads a class after its opening bracket, and what follows the closing one. -/
def read (flags : Flags) : Nat → List Char → Option (CharSet × List Char)
  | 0, _ => none
  | fuel + 1, text =>
    let (negated, first, items) := opening flags text
    (readItems flags fuel ⟨none, first⟩ items).map fun (characters, after) =>
      (Escape.signed negated (flags.close characters), after)

/-- Reads the items of a class up to its closing bracket, and what follows it. -/
def readItems (flags : Flags) : Nat → Pending → List Char → Option (CharSet × List Char)
  | 0, _, _ => none
  | fuel + 1, pending, text =>
    match flags.skip text with
    | [] => none
    | ']' :: after => some (pending.total flags, after)
    | '[' :: rest =>
      match readNamed? flags rest with
      | some (found, after) => readItems flags fuel (pending.add found) after
      | none =>
        (read flags fuel rest).bind fun (found, after) =>
          readItems flags fuel (pending.add found) after
    | other =>
      match operation? other with
      | some (operation, after) =>
        readItems flags fuel ⟨some (operation, pending.total flags), .nothing⟩ after
      | none =>
        (readRange flags other).bind fun (found, after) =>
          readItems flags fuel (pending.add found) after

end

end Class

end RecordFilter.Pattern
