import RecordFilter.Numeric.Double

/-! Documents as trees: numbers of two representations, and objects
that keep the order of their members. -/

namespace RecordFilter

/-- A number of a document: a 64-bit integer, signed or unsigned, or a finite double. -/
inductive Number
  /-- An integer that fits in 64 bits, with a sign bit or without one. -/
  | integer (value : Int) (inRange : -9223372036854775808 ≤ value ∧ value < 18446744073709551616)
  /-- A double, which is never an infinity. -/
  | double (value : Double) (finite : value.IsFinite)
deriving DecidableEq

namespace Number

/-- The number as a signed 64-bit integer, if it is one. -/
def asSigned? : Number → Option Int
  | integer value _ => if value < 9223372036854775808 then some value else none
  | double _ _ => none

/-- The number as an unsigned 64-bit integer, if it is one. -/
def asUnsigned? : Number → Option Int
  | integer value _ => if 0 ≤ value then some value else none
  | double _ _ => none

/-- The double nearest to the number. -/
def toDouble : Number → Double
  | integer value _ => Double.ofInt value
  | double value _ => value

/-- Equality of representation and value, where the two zeros among the doubles are equal. -/
def same : Number → Number → Bool
  | integer left _, integer right _ => left == right
  | double left _, double right _ => left.sameValue right
  | _, _ => false

/-- An integer as a number, if it fits in 64 bits. -/
def ofInt? (value : Int) : Option Number :=
  -- The range is kept with the number, so that none outside it can be built.
  if inRange : -9223372036854775808 ≤ value ∧ value < 18446744073709551616 then some (integer value inRange) else none

/-- A double as a number, if it is finite. -/
def ofDouble? (value : Double) : Option Number :=
  -- Infinities have no place in a document.
  if finite : value.IsFinite then some (double value finite) else none

end Number

/-- A document, or a part of one. -/
inductive Json
  /-- The null value. -/
  | null
  /-- A truth value. -/
  | bool (value : Bool)
  /-- A number. -/
  | number (value : Number)
  /-- A string. -/
  | string (value : String)
  /-- An array of items. -/
  | array (items : List Json)
  /-- An object, whose members keep their order. -/
  | object (members : List (String × Json))

namespace Json

instance : Inhabited Json := ⟨null⟩

/-- The value of the first member with the given key. -/
def find? (key : String) : List (String × Json) → Option Json
  | [] => none
  -- The first member of a key hides any later one.
  | (name, value) :: rest => if name == key then some value else find? key rest

/-- The members with one more: a known key takes the new value in its place, a new key goes last. -/
def put (key : String) (value : Json) : List (String × Json) → List (String × Json)
  | [] => [(key, value)]
  | (name, old) :: rest =>
    -- The name keeps its place, and only its value changes.
    if name == key then (name, value) :: rest else (name, old) :: put key value rest

/-- Members in the order of their first occurrence, each with the value of its last. -/
def ofMembers (members : List (String × Json)) : List (String × Json) :=
  -- The members go in one after another, from the first to the last.
  members.foldl (fun built (key, value) => put key value built) []

/-- A natural number below two to the sixty-fourth as a document, and null for any other. -/
def ofNat (value : Nat) : Json :=
  (Number.ofInt? value).elim null number

mutual

/-- How many arrays and objects lie around the innermost value. -/
def depth : Json → Nat
  -- An empty container counts as one, like any other.
  | array items => itemsDepth items + 1
  | object members => membersDepth members + 1
  | _ => 0

/-- The greatest depth among the items of an array. -/
def itemsDepth : List Json → Nat
  | [] => 0
  | item :: rest => max item.depth (itemsDepth rest)

/-- The greatest depth among the members of an object. -/
def membersDepth : List (String × Json) → Nat
  | [] => 0
  | (_, value) :: rest => max value.depth (membersDepth rest)

end

mutual

/-- Whether two documents agree: arrays place by place, objects key
by key, all else by a given rule. -/
def agree (leaf : Json → Json → Bool) : Json → Json → Bool
  | array left, array right => agreeItems leaf left right
  -- With as many members on either side, those on the left are enough to look at.
  | object left, object right => left.length == right.length && agreeMembers leaf left right
  | left, right => leaf left right

/-- Whether two lists of items agree place by place. -/
def agreeItems (leaf : Json → Json → Bool) : List Json → List Json → Bool
  | [], [] => true
  | left :: moreLeft, right :: moreRight => agree leaf left right && agreeItems leaf moreLeft moreRight
  | _, _ => false

/-- Whether every member agrees with the one of the same key among others. -/
def agreeMembers (leaf : Json → Json → Bool) : List (String × Json) → List (String × Json) → Bool
  | [], _ => true
  | (key, left) :: rest, others =>
    -- A member of the left must have one of the same key on the right.
    (match find? key others with
      | some right => agree leaf left right
      | none => false) && agreeMembers leaf rest others

end

/-- Equality of two values of which at least one is no container, or
which are containers of two kinds. -/
def sameScalar : Json → Json → Bool
  | null, null => true
  | bool left, bool right => left == right
  | number left, number right => left.same right
  | string left, string right => left == right
  | _, _ => false

/-- Structural equality without coercion, in which the order of members does not count. -/
def strictEq : Json → Json → Bool :=
  agree sameScalar

end Json

end RecordFilter
