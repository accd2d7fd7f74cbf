/-! Blank characters, and texts without them at either end. -/

namespace RecordFilter.Text

/-- Whether a character has the Unicode property of white space. -/
def isBlank (character : Char) : Bool :=
  let code := character.toNat
  (9 ≤ code && code ≤ 13) || code == 0x20 || code == 0x85 || code == 0xA0 || code == 0x1680 ||
    (0x2000 ≤ code && code ≤ 0x200A) || code == 0x2028 || code == 0x2029 || code == 0x202F ||
    code == 0x205F || code == 0x3000

/-- A text without the characters of a class at its start. -/
def trimStart (drops : Char → Bool) (text : List Char) : List Char :=
  text.dropWhile drops

/-- A text without the characters of a class at its end. -/
def trimEnd (drops : Char → Bool) (text : List Char) : List Char :=
  (text.reverse.dropWhile drops).reverse

/-- A text without the characters of a class at either end. -/
def trim (drops : Char → Bool) (text : List Char) : List Char :=
  trimEnd drops (trimStart drops text)

end RecordFilter.Text
