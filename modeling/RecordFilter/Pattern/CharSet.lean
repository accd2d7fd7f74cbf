import RecordFilter.Text.CategoryTable
import RecordFilter.Text.Fold
import RecordFilter.Text.Blank

/-! Sets of characters, as the classes of a pattern describe them. -/

namespace RecordFilter

/-- A set of characters. -/
inductive CharSet
  /-- No character. -/
  | nothing
  /-- The characters from the first to the last. -/
  | range (first last : Char)
  /-- The characters of some general categories. -/
  | categories (members : List Category)
  /-- The blank characters. -/
  | blank
  /-- The characters of either set. -/
  | union (left right : CharSet)
  /-- The characters of both sets. -/
  | inter (left right : CharSet)
  /-- All characters outside a set. -/
  | compl (inner : CharSet)
  /-- A set with everything that differs from a member in case alone. -/
  | foldClosed (inner : CharSet)
  /-- A set with everything that differs from a member in the case of an ASCII letter alone. -/
  | asciiFoldClosed (inner : CharSet)
deriving DecidableEq

namespace CharSet

/-- The same ASCII letter in the other case, and any other character itself. -/
def swapAsciiCase (character : Char) : Char :=
  if character.isUpper then character.toLower
  else if character.isLower then character.toUpper
  else character

/-- Whether a character belongs to a set. -/
def holds : CharSet → Char → Bool
  | nothing, _ => false
  | range first last, character => first ≤ character && character ≤ last
  | categories members, character => members.contains (Category.of character)
  | blank, character => Text.isBlank character
  | union left right, character => left.holds character || right.holds character
  | inter left right, character => left.holds character && right.holds character
  | compl inner, character => !inner.holds character
  | foldClosed inner, character =>
    (Fold.orbit character.toNat).any fun code => inner.holds (Char.ofNat code)
  | asciiFoldClosed inner, character =>
    inner.holds character || inner.holds (swapAsciiCase character)

/-- The set of one character. -/
def single (character : Char) : CharSet := range character character

/-- Every character. -/
def anything : CharSet := compl nothing

/-- The union of several sets. -/
def unions (sets : List CharSet) : CharSet := sets.foldr union nothing

/-- The characters of a list. -/
def listed (characters : List Char) : CharSet := unions (characters.map single)

/-- Both members of a set and of another, or of neither. -/
def symmDiff (left right : CharSet) : CharSet :=
  inter (union left right) (compl (inter left right))

/-- The decimal digits of all scripts. -/
def digit : CharSet := categories [.nd]

/-- The ten ASCII digits. -/
def asciiDigit : CharSet := range '0' '9'

/-- The ASCII letters. -/
def asciiLetter : CharSet := union (range 'a' 'z') (range 'A' 'Z')

/-- The letters of all scripts, the marks on them, numbers used as letters, and circled letters. -/
def alphabetic : CharSet :=
  unions [categories (.nl :: Category.letters), range '\u24B6' '\u24E9',
    range (Char.ofNat 0x1F130) (Char.ofNat 0x1F149), range (Char.ofNat 0x1F150) (Char.ofNat 0x1F169),
    range (Char.ofNat 0x1F170) (Char.ofNat 0x1F189)]

/-- The characters of words: letters, marks, digits, connecting punctuation, and the two joiners. -/
def word : CharSet :=
  unions [alphabetic, categories (.nd :: .pc :: Category.marks), range '\u200C' '\u200D']

/-- The ASCII characters of words. -/
def asciiWord : CharSet := unions [asciiLetter, asciiDigit, single '_']

/-- The ASCII characters that are blank. -/
def asciiBlank : CharSet := union (range '\t' '\r') (single ' ')

/-- The ASCII characters. -/
def ascii : CharSet := range (Char.ofNat 0) (Char.ofNat 0x7F)

end CharSet

end RecordFilter
