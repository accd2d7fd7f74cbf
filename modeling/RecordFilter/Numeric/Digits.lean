/-! Digits of natural numbers, written and read, most significant first. -/

namespace RecordFilter

/-- The decimal digit of a number below ten, and of its last place otherwise. -/
def digitChar (value : Nat) : Char :=
  -- The ten digits are consecutive characters.
  Char.ofNat (48 + value % 10)

/-- The value of a decimal digit. -/
def digitValue (digit : Char) : Nat :=
  digit.toNat - 48

/-- The decimal digits of a number, without leading zeros, and a single zero for zero. -/
def digits (value : Nat) : List Char :=
  -- The last place is written after all the places above it.
  if value < 10 then [digitChar value] else digits (value / 10) ++ [digitChar value]
termination_by value

/-- The number that a list of decimal digits denotes, continuing from a number already read. -/
def continueDigits (start : Nat) (text : List Char) : Nat :=
  -- Every further digit moves the number one place up.
  text.foldl (fun total digit => 10 * total + digitValue digit) start

/-- The number that a list of decimal digits denotes. -/
def ofDigits (text : List Char) : Nat :=
  continueDigits 0 text

/-- The decimal digits that a text begins with, and what follows them. -/
def spanDigits (text : List Char) : List Char × List Char :=
  -- Only the ten ASCII digits count.
  text.span Char.isDigit

/-- The text of an integer, with a sign only when it is negative. -/
def integerText (value : Int) : List Char :=
  if value < 0 then '-' :: digits value.natAbs else digits value.natAbs

/-- The value of a hexadecimal digit in either case. -/
def hexValue? (digit : Char) : Option Nat :=
  if digit.isDigit then some (digit.toNat - 48)
  else if 'a' ≤ digit ∧ digit ≤ 'f' then some (digit.toNat - 87)
  else if 'A' ≤ digit ∧ digit ≤ 'F' then some (digit.toNat - 55)
  else none

/-- The number that hexadecimal digits denote, continuing from a number already read. -/
def hexNumber? (start : Nat) : List Char → Option Nat
  | [] => some start
  | digit :: rest => (hexValue? digit).bind fun value => hexNumber? (16 * start + value) rest

end RecordFilter
