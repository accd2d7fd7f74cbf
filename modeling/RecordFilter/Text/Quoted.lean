import RecordFilter.Json.Printer
import RecordFilter.Text.CategoryTable

/-! Texts between quotation marks as messages show them, with the characters
that would not print escaped. -/

namespace RecordFilter.Text

/-- The hexadecimal digits of a number, without leading zeros. -/
def hexDigits (value : Nat) : List Char :=
  if value < 16 then [Json.hexDigit value]
  else hexDigits (value / 16) ++ [Json.hexDigit (value % 16)]
termination_by value

/-- The codes of spacing marks and joiners that extend the character in front of them. -/
def extendingCodes : List (Nat × Nat) :=
  [(0x9BE, 0x9BE), (0x9D7, 0x9D7), (0xB3E, 0xB3E), (0xB57, 0xB57), (0xBBE, 0xBBE), (0xBD7, 0xBD7),
    (0xCC2, 0xCC2), (0xCD5, 0xCD6), (0xD3E, 0xD3E), (0xD57, 0xD57), (0xDCF, 0xDCF), (0xDDF, 0xDDF),
    (0x1B35, 0x1B35), (0x200C, 0x200C), (0x302E, 0x302F), (0xFF9E, 0xFF9F), (0x1133E, 0x1133E),
    (0x11357, 0x11357), (0x114B0, 0x114B0), (0x114BD, 0x114BD), (0x115AF, 0x115AF),
    (0x11930, 0x11930), (0x1D165, 0x1D165), (0x1D16E, 0x1D172), (0xE0020, 0xE007F)]

/-- Whether a character only extends the one in front of it. -/
def isExtending (character : Char) : Bool :=
  let category := Category.of character
  category == .mn || category == .me ||
    extendingCodes.any fun (first, last) => first ≤ character.toNat && character.toNat ≤ last

/-- Whether a character shows by itself: it is neither blank nor
a control, and has been assigned. -/
def isPrintable (character : Char) : Bool :=
  character == ' ' ||
    !(Category.separators ++ Category.others).contains (Category.of character)

/-- A character inside a quoted text. -/
def quotedCharacter (character : Char) : List Char :=
  match character with
  | '"' => ['\\', '"']
  | '\\' => ['\\', '\\']
  | '\n' => ['\\', 'n']
  | '\r' => ['\\', 'r']
  | '\t' => ['\\', 't']
  | '\x00' => ['\\', '0']
  | other =>
    if isPrintable other && !isExtending other then [other]
    else ['\\', 'u', '\x7b'] ++ hexDigits other.toNat ++ ['\x7d']

/-- A text between quotation marks. -/
def quoted (text : List Char) : List Char :=
  '"' :: text.flatMap quotedCharacter ++ ['"']

end RecordFilter.Text
