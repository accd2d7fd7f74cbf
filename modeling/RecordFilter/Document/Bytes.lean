import RecordFilter.Json.Basic

/-! Parts of binary documents: counted runs of bytes, big-endian numbers,
UTF-8 texts, and numbers of documents. -/

namespace RecordFilter.Bytes

/-- The number that bytes denote, most significant first. -/
def bigEndian (bytes : List UInt8) : Nat :=
  bytes.foldl (fun total byte => 256 * total + byte.toNat) 0

/-- The first bytes of a list, as many as asked for, and the rest. -/
def take? (count : Nat) (bytes : List UInt8) : Option (List UInt8 × List UInt8) :=
  let front := bytes.take count
  if front.length == count then some (front, bytes.drop count) else none

/-- A big-endian number of so many bytes, and the rest. -/
def takeNumber? (count : Nat) (bytes : List UInt8) : Option (Nat × List UInt8) :=
  (take? count bytes).map fun (front, rest) => (bigEndian front, rest)

/-- The UTF-8 text that bytes hold. -/
def text? (bytes : List UInt8) : Option String :=
  String.fromUTF8? (ByteArray.mk bytes.toArray)

/-- A UTF-8 text of so many bytes, and the rest. -/
def takeText? (count : Nat) (bytes : List UInt8) : Option (String × List UInt8) :=
  (take? count bytes).bind fun (front, rest) => (text? front).map fun text => (text, rest)

/-- The value that so many bits denote in two's complement. -/
def signed (bits value : Nat) : Int :=
  if value < twoTo (bits - 1) then value else (value : Int) - twoTo bits

/-- A double as a document, where what is not finite is null. -/
def ofDouble (value : Option Double) : Json :=
  ((value.bind Number.ofDouble?).map Json.number).getD .null

/-- An integer as a document, if it fits in 64 bits. -/
def ofInt? (value : Int) : Option Json :=
  (Number.ofInt? value).map Json.number

end RecordFilter.Bytes
