import RecordFilter.Json.Basic
import RecordFilter.Json.Written

/-! The meaning of written documents: the range of numbers, surrogate pairs,
repeated keys, and the nesting limit. -/

namespace RecordFilter

namespace NumberLiteral

/-- The greatest coefficient that is collected from the digits of a literal. -/
def greatestCoefficient : Nat := twoTo 64 - 1

/-- The greatest exponent that is evaluated. -/
def greatestExponent : Nat := twoTo 31 - 1

/-- Digits taken onto a coefficient while it stays in range, and the digits that no longer fit. -/
def collect (coefficient : Nat) : List Char → Nat × List Char
  | [] => (coefficient, [])
  | digit :: rest =>
    -- The first digit that would leave the range ends the coefficient.
    let next := 10 * coefficient + digitValue digit
    if next ≤ greatestCoefficient then collect next rest else (coefficient, digit :: rest)

/-- The coefficient of a literal and the power of ten it is counted
in, before the written exponent. -/
def scaled (literal : NumberLiteral) : Nat × Int :=
  -- Whole digits that do not fit still count as places, but fraction
  -- digits that do not fit are lost.
  let (wholePart, dropped) := collect 0 literal.whole
  let fraction := literal.fraction.getD []
  let (coefficient, lost) := collect wholePart fraction
  (coefficient, (dropped.length : Int) - (fraction.length - lost.length))

/-- A power of ten with an exponent of at most three hundred and eight, as the nearest double. -/
def scale (exponent : Nat) : Double :=
  Double.ofNat (tenTo exponent)

/-- Divides a double by a power of ten, in steps that each round. -/
def scaleDown (value : Double) (exponent : Nat) : Double :=
  -- The largest power that fits is divided away first, and zero stays what it is.
  if exponent ≤ 308 then value.div (scale exponent)
  else if value.isZero then value
  else scaleDown (value.div (scale 308)) (exponent - 308)
termination_by exponent

/-- Multiplies a double by a power of ten, unless the result is out of range. -/
def scaleUp? (value : Double) (exponent : Nat) : Option Double :=
  if exponent ≤ 308 then
    let product := value.mul (scale exponent)
    if product.IsFinite then some product else none
  else if value.isZero then some value
  else none

/-- A coefficient times a power of ten, rounded at every step, unless it is out of range. -/
def scale? (coefficient : Nat) (exponent : Int) : Option Double :=
  let start := Double.ofNat coefficient
  if exponent < 0 then some (scaleDown start exponent.natAbs) else scaleUp? start exponent.natAbs

/-- The absolute value of a literal as a double, unless it is out of range. -/
def absolute? (literal : NumberLiteral) : Option Double :=
  let (coefficient, places) := literal.scaled
  match literal.exponent with
  | none => scale? coefficient places
  | some (negative, digits) =>
    let exponent := ofDigits digits
    -- An exponent too large to be evaluated leaves zero or nothing.
    if greatestExponent < exponent then
      if negative || coefficient == 0 then some (Double.zero false) else none
    else scale? coefficient (if negative then places - exponent else places + exponent)

/-- The literal as a double, unless it is out of range. -/
def double? (literal : NumberLiteral) : Option Number :=
  literal.absolute?.bind fun value => Number.ofDouble? (value.withSign literal.negative)

/-- The literal as an integer: no point, no exponent, at most 64 bits,
and no minus in front of zero. -/
def integer? (literal : NumberLiteral) : Option Number :=
  match literal.fraction, literal.exponent with
  | none, none =>
    let value := ofDigits literal.whole
    if literal.negative then
      if value == 0 then none else Number.ofInt? (-value)
    else Number.ofInt? value
  | _, _ => none

/-- The number that a literal denotes, unless it is out of range. -/
def value? (literal : NumberLiteral) : Option Number :=
  literal.integer?.or literal.double?

end NumberLiteral

namespace StringPart

/-- Whether a UTF-16 unit is the first half of a pair. -/
def isHighSurrogate (value : Nat) : Bool :=
  0xD800 ≤ value && value ≤ 0xDBFF

/-- Whether a UTF-16 unit is the second half of a pair. -/
def isLowSurrogate (value : Nat) : Bool :=
  0xDC00 ≤ value && value ≤ 0xDFFF

/-- The characters that the parts of a literal denote, unless half a surrogate pair stands alone. -/
def decode : List StringPart → Option (List Char)
  | [] => some []
  | .plain character :: rest => (decode rest).map (character :: ·)
  | .unit high :: .unit low :: rest =>
    -- A high half asks for a low one right behind it.
    if isHighSurrogate high then
      if isLowSurrogate low then
        (decode rest).map
          (Char.ofNat (0x10000 + (high - 0xD800) * 0x400 + (low - 0xDC00)) :: ·)
      else none
    else if isLowSurrogate high then none
    else (decode (.unit low :: rest)).map (Char.ofNat high :: ·)
  | .unit single :: rest =>
    -- A half alone denotes no character.
    if isHighSurrogate single || isLowSurrogate single then none
    else (decode rest).map (Char.ofNat single :: ·)

/-- The string that the parts of a literal denote. -/
def text? (parts : List StringPart) : Option String :=
  (decode parts).map String.ofList

end StringPart

namespace Written

mutual

/-- The document that a written one denotes, with room for so many containers around each other. -/
def value? (room : Nat) : Written → Option Json
  | null => some .null
  | bool value => some (.bool value)
  | number literal => literal.value?.map .number
  | string parts => (StringPart.text? parts).map .string
  | array items =>
    match room with
    | 0 => none
    -- Every container takes up one level of nesting.
    | room + 1 => (items? room items).map .array
  | object members =>
    match room with
    | 0 => none
    | room + 1 => (members? room members).map fun found => .object (Json.ofMembers found)

/-- The documents that written items denote. -/
def items? (room : Nat) : List Written → Option (List Json)
  | [] => some []
  | item :: rest =>
    (item.value? room).bind fun value => (items? room rest).map (value :: ·)

/-- The members that written members denote, in their order and with repeated keys. -/
def members? (room : Nat) : List (List StringPart × Written) → Option (List (String × Json))
  | [] => some []
  | (key, written) :: rest =>
    -- The key is decoded before its value.
    (StringPart.text? key).bind fun name =>
      (written.value? room).bind fun value => (members? room rest).map ((name, value) :: ·)

end

end Written

namespace Json

/-- How many arrays and objects may lie around each other in a text. -/
def nestingLimit : Nat := 127

/-- Reads a whole text as one document. -/
def read (text : List Char) : Option Json :=
  (Written.read text).bind (Written.value? nestingLimit)

/-- Reads bytes as the UTF-8 text of one document. -/
def decode (bytes : ByteArray) : Option Json :=
  (String.fromUTF8? bytes).bind fun text => read text.toList

end Json

end RecordFilter
