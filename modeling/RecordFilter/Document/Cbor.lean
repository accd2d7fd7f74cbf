import RecordFilter.Document.Bytes

/-! Documents in CBOR: items with a head that tells their kind and their length or value. -/

namespace RecordFilter.Cbor

/-- The kinds of items, by the three high bits of their first byte. -/
inductive Major
  /-- An integer that is not negative. -/
  | unsigned
  /-- A negative integer, counted down from minus one. -/
  | negative
  /-- A string of bytes. -/
  | bytes
  /-- A string of text. -/
  | text
  /-- A list of items. -/
  | array
  /-- A list of pairs of items. -/
  | map
  /-- A tag in front of an item. -/
  | tag
  /-- A float or a simple value. -/
  | simple
deriving DecidableEq

/-- The head of an item. -/
structure Head where
  /-- The kind of item. -/
  major : Major
  /-- How many bytes hold the argument, none if it stands in the first byte. -/
  width : Nat
  /-- The argument, unless it is left open. -/
  argument : Option Nat

/-- The kind of item that a first byte announces. -/
def majorOf (first : Nat) : Major :=
  match first / 32 with
  | 0 => .unsigned
  | 1 => .negative
  | 2 => .bytes
  | 3 => .text
  | 4 => .array
  | 5 => .map
  | 6 => .tag
  | _ => .simple

/-- Reads the head of an item, and what follows it. -/
def readHead : List UInt8 → Option (Head × List UInt8)
  | [] => none
  | first :: rest =>
    let major := majorOf first.toNat
    let low := first.toNat % 32
    if low < 24 then some (⟨major, 0, some low⟩, rest)
    else if low < 28 then
      (Bytes.takeNumber? (twoTo (low - 24)) rest).map fun (argument, after) =>
        (⟨major, twoTo (low - 24), some argument⟩, after)
    else if low == 31 && major != .unsigned && major != .negative && major != .tag then
      some (⟨major, 0, none⟩, rest)
    else none

/-- Reads the pieces of a string of open length, of which some may be open themselves. -/
def readPieces (kind : Major) : Nat → Nat → List UInt8 → Option (List (List UInt8) × List UInt8)
  | 0, _, _ => none
  | fuel + 1, opened, bytes =>
    (readHead bytes).bind fun (head, rest) =>
      match head.argument with
      | none =>
        -- A break closes the innermost string of open length.
        if head.major == .simple then
          match opened with
          | 0 => some ([], rest)
          | outer + 1 => readPieces kind fuel outer rest
        else if head.major == kind then readPieces kind fuel (opened + 1) rest
        else none
      | some length =>
        if head.major == kind then
          (Bytes.take? length rest).bind fun (piece, after) =>
            (readPieces kind fuel opened after).map fun (pieces, last) => (piece :: pieces, last)
        else none

/-- Reads the pieces of a string after its head: one of known length, or any number of them. -/
def readString (kind : Major) (length : Option Nat) (bytes : List UInt8) :
    Option (List (List UInt8) × List UInt8) :=
  match length with
  | some known => (Bytes.take? known bytes).map fun (piece, rest) => ([piece], rest)
  | none => readPieces kind (bytes.length + 1) 0 bytes

/-- Reads a text after its head: every piece must be UTF-8 by itself. -/
def readText (length : Option Nat) (bytes : List UInt8) : Option (String × List UInt8) :=
  (readString .text length bytes).bind fun (pieces, rest) =>
    (pieces.mapM Bytes.text?).map fun texts => (String.join texts, rest)

/-- The greatest number of bytes in a number of any size. -/
def numberWidth : Nat := 16

/-- Reads an integer of any size after its tag, as a string of bytes. -/
def readBigNumber (bytes : List UInt8) : Option (Nat × List UInt8) :=
  (readHead bytes).bind fun (head, afterHead) =>
    if head.major == .bytes then
      (readString .bytes head.argument afterHead).bind fun (pieces, rest) =>
        let significant := pieces.flatten.dropWhile (· == 0)
        if significant.length ≤ numberWidth then some (Bytes.bigEndian significant, rest) else none
    else none

/-- The value of a float or of a simple value with the given argument. -/
def simpleValue? (width argument : Nat) : Option Json :=
  match width with
  | 2 => some (Bytes.ofDouble (Double.ofInterchange 5 10 argument))
  | 4 => some (Bytes.ofDouble (Double.ofInterchange 8 23 argument))
  | 8 => some (Bytes.ofDouble (Double.ofInterchange 11 52 argument))
  | _ =>
    match argument with
    | 20 => some (.bool false)
    | 21 => some (.bool true)
    | 22 => some .null
    | 23 => some .null
    | _ => none

/-- The longest key of known length. -/
def longestFirstKey : Nat := 4096

/-- Reads the key of a member behind any tags; the first key of a map must have a known length. -/
def readKey (isFirst : Bool) : Nat → List UInt8 → Option (String × List UInt8)
  | 0, _ => none
  | fuel + 1, bytes =>
    (readHead bytes).bind fun (head, rest) =>
      match head.major, head.argument with
      | .tag, _ => readKey isFirst fuel rest
      | .text, length =>
        if isFirst && !length.any (· ≤ longestFirstKey) then none else readText length rest
      | _, _ => none

/-- Whether the next head is a break, and what follows it. -/
def takeBreak : List UInt8 → Option (List UInt8)
  | 0xFF :: rest => some rest
  | _ => none

/-- How many arrays and maps may lie around each other. -/
def nestingLimit : Nat := 256

mutual

/-- Reads an item, and what follows it, with room for so many containers around each other. -/
def readItem : Nat → Nat → List UInt8 → Option (Json × List UInt8)
  | 0, _, _ => none
  | fuel + 1, room, bytes =>
    (readHead bytes).bind fun (head, rest) =>
      match head.major, head.argument with
      | .unsigned, some value => (Bytes.ofInt? value).map fun item => (item, rest)
      | .negative, some value => (Bytes.ofInt? (-1 - (value : Int))).map fun item => (item, rest)
      | .text, length => (readText length rest).map fun (text, after) => (.string text, after)
      | .array, count =>
        match room with
        | 0 => none
        | inner + 1 =>
          (readItems fuel inner count rest).map fun (items, after) => (.array items, after)
      | .map, count =>
        match room with
        | 0 => none
        | inner + 1 =>
          (readMembers fuel inner true count rest).map fun (members, after) =>
            (.object (Json.ofMembers members), after)
      | .tag, some 2 =>
        (readBigNumber rest).bind fun (value, after) =>
          (Bytes.ofInt? value).map fun item => (item, after)
      | .tag, some 3 =>
        (readBigNumber rest).bind fun (value, after) =>
          (Bytes.ofInt? (-1 - (value : Int))).map fun item => (item, after)
      | .simple, some argument => (simpleValue? head.width argument).map fun item => (item, rest)
      | _, _ => none

/-- Reads so many items, or items up to a break. -/
def readItems : Nat → Nat → Option Nat → List UInt8 → Option (List Json × List UInt8)
  | 0, _, _, _ => none
  | _, _, some 0, bytes => some ([], bytes)
  | fuel + 1, room, count, bytes =>
    match count, takeBreak bytes with
    | none, some rest => some ([], rest)
    | _, _ =>
      (readItem fuel room bytes).bind fun (item, afterItem) =>
        (readItems fuel room (count.map (· - 1)) afterItem).map fun (items, rest) =>
          (item :: items, rest)

/-- Reads so many members, or members up to a break. -/
def readMembers : Nat → Nat → Bool → Option Nat → List UInt8 →
    Option (List (String × Json) × List UInt8)
  | 0, _, _, _, _ => none
  | _, _, _, some 0, bytes => some ([], bytes)
  | fuel + 1, room, isFirst, count, bytes =>
    match count, takeBreak bytes with
    | none, some rest => some ([], rest)
    | _, _ =>
      (readKey isFirst (bytes.length + 1) bytes).bind fun (key, afterKey) =>
        (readItem fuel room afterKey).bind fun (value, afterValue) =>
          (readMembers fuel room false (count.map (· - 1)) afterValue).map fun (members, rest) =>
            ((key, value) :: members, rest)

end

/-- The document at the start of bytes, whatever follows it. -/
def decode (bytes : List UInt8) : Option Json :=
  -- At most two calls are made for every byte.
  (readItem (2 * bytes.length + 2) nestingLimit bytes).map Prod.fst

end RecordFilter.Cbor
