import RecordFilter.Document.Bytes

/-! Documents in MessagePack: items with a first byte that tells
their kind and often their length. -/

namespace RecordFilter.MessagePack

/-- What a first byte announces. -/
inductive Head
  /-- The null value. -/
  | null
  /-- A truth value. -/
  | bool (value : Bool)
  /-- An integer. -/
  | integer (value : Int)
  /-- A float. -/
  | float (value : Option Double)
  /-- A text of so many bytes. -/
  | text (length : Nat)
  /-- A list of so many items. -/
  | array (count : Nat)
  /-- So many pairs of a key and an item. -/
  | map (count : Nat)

/-- Reads a number of so many bytes into a head, and what follows it. -/
def headWith (width : Nat) (head : Nat → Head) (bytes : List UInt8) : Option (Head × List UInt8) :=
  (Bytes.takeNumber? width bytes).map fun (value, rest) => (head value, rest)

/-- Reads the head of an item, and what follows it; strings of bytes and extensions have none. -/
def readHead : List UInt8 → Option (Head × List UInt8)
  | [] => none
  | first :: rest =>
    let code := first.toNat
    if code < 0x80 then some (.integer code, rest)
    else if code < 0x90 then some (.map (code - 0x80), rest)
    else if code < 0xA0 then some (.array (code - 0x90), rest)
    else if code < 0xC0 then some (.text (code - 0xA0), rest)
    else if 0xE0 ≤ code then some (.integer ((code : Int) - 256), rest)
    else
      match code with
      | 0xC0 => some (.null, rest)
      | 0xC2 => some (.bool false, rest)
      | 0xC3 => some (.bool true, rest)
      | 0xCA => headWith 4 (fun bits => .float (Double.ofInterchange 8 23 bits)) rest
      | 0xCB => headWith 8 (fun bits => .float (Double.ofInterchange 11 52 bits)) rest
      | 0xCC => headWith 1 (fun value => .integer value) rest
      | 0xCD => headWith 2 (fun value => .integer value) rest
      | 0xCE => headWith 4 (fun value => .integer value) rest
      | 0xCF => headWith 8 (fun value => .integer value) rest
      | 0xD0 => headWith 1 (fun value => .integer (Bytes.signed 8 value)) rest
      | 0xD1 => headWith 2 (fun value => .integer (Bytes.signed 16 value)) rest
      | 0xD2 => headWith 4 (fun value => .integer (Bytes.signed 32 value)) rest
      | 0xD3 => headWith 8 (fun value => .integer (Bytes.signed 64 value)) rest
      | 0xD9 => headWith 1 .text rest
      | 0xDA => headWith 2 .text rest
      | 0xDB => headWith 4 .text rest
      | 0xDC => headWith 2 .array rest
      | 0xDD => headWith 4 .array rest
      | 0xDE => headWith 2 .map rest
      | 0xDF => headWith 4 .map rest
      | _ => none

/-- Reads the key of a member, which is a text, and what follows it. -/
def readKey (bytes : List UInt8) : Option (String × List UInt8) :=
  (readHead bytes).bind fun (head, rest) =>
    match head with
    | .text length => Bytes.takeText? length rest
    | _ => none

/-- How many arrays and maps may lie around each other. -/
def nestingLimit : Nat := 1023

mutual

/-- Reads an item, and what follows it, with room for so many containers around each other. -/
def readItem : Nat → Nat → List UInt8 → Option (Json × List UInt8)
  | 0, _, _ => none
  | fuel + 1, room, bytes =>
    (readHead bytes).bind fun (head, rest) =>
      match head with
      | .null => some (.null, rest)
      | .bool value => some (.bool value, rest)
      | .integer value => (Bytes.ofInt? value).map fun item => (item, rest)
      | .float value => some (Bytes.ofDouble value, rest)
      | .text length => (Bytes.takeText? length rest).map fun (text, after) => (.string text, after)
      | .array count =>
        match room with
        | 0 => none
        | inner + 1 =>
          (readItems fuel inner count rest).map fun (items, after) => (.array items, after)
      | .map count =>
        match room with
        | 0 => none
        | inner + 1 =>
          (readMembers fuel inner count rest).map fun (members, after) =>
            (.object (Json.ofMembers members), after)

/-- Reads so many items. -/
def readItems : Nat → Nat → Nat → List UInt8 → Option (List Json × List UInt8)
  | 0, _, _, _ => none
  | _, _, 0, bytes => some ([], bytes)
  | fuel + 1, room, count + 1, bytes =>
    (readItem fuel room bytes).bind fun (item, afterItem) =>
      (readItems fuel room count afterItem).map fun (items, rest) => (item :: items, rest)

/-- Reads so many members. -/
def readMembers : Nat → Nat → Nat → List UInt8 → Option (List (String × Json) × List UInt8)
  | 0, _, _, _ => none
  | _, _, 0, bytes => some ([], bytes)
  | fuel + 1, room, count + 1, bytes =>
    (readKey bytes).bind fun (key, afterKey) =>
      (readItem fuel room afterKey).bind fun (value, afterValue) =>
        (readMembers fuel room count afterValue).map fun (members, rest) =>
          ((key, value) :: members, rest)

end

/-- The document at the start of bytes, whatever follows it. -/
def decode (bytes : List UInt8) : Option Json :=
  -- At most two calls are made for every byte.
  (readItem (2 * bytes.length + 2) nestingLimit bytes).map Prod.fst

end RecordFilter.MessagePack
