import RecordFilter.Proofs.Numeric.Numerals
import RecordFilter.Proofs.Text.Trim

/-! A text counts as a number exactly if it is a decimal numeral between
blanks, and never as what is no number. -/

namespace RecordFilter

variable {text : List Char}

section Characters

variable {character : Char}

/-- A digit may stand in a numeral. -/
theorem isNumeralCharacter_of_isDigit (digit : character.isDigit = true) :
    isNumeralCharacter character = true := by
  simp [isNumeralCharacter, digit]

/-- A character of numerals is a digit, or one of five others. -/
theorem isDigit_or_of_isNumeralCharacter (belongs : isNumeralCharacter character = true) :
    character.isDigit = true ∨ character = '+' ∨ character = '-' ∨ character = '.' ∨
      character = 'e' ∨ character = 'E' := by
  simpa [isNumeralCharacter] using belongs

/-- The characters of numerals are not blank. -/
theorem isBlank_of_isNumeralCharacter (belongs : isNumeralCharacter character = true) :
    Text.isBlank character = false := by
  rcases isDigit_or_of_isNumeralCharacter belongs with digit | rfl | rfl | rfl | rfl | rfl
  · -- The ten digits stand together, between the blanks below them and those above.
    simp only [Char.isDigit, Bool.and_eq_true, decide_eq_true_eq] at digit
    have low : 48 ≤ character.toNat := UInt32.le_iff_toNat_le.mp digit.1
    have high : character.toNat ≤ 57 := UInt32.le_iff_toNat_le.mp digit.2
    simp only [Text.isBlank, Bool.or_eq_false_iff, Bool.and_eq_false_iff, decide_eq_false_iff_not,
      beq_eq_false_iff_ne]
    omega
  all_goals decide

/-- The characters of numerals are not the letter that every word has, in neither case of it. -/
theorem toLower_ne_of_isNumeralCharacter (belongs : isNumeralCharacter character = true) :
    character.toLower ≠ 'n' := by
  rcases isDigit_or_of_isNumeralCharacter belongs with digit | rfl | rfl | rfl | rfl | rfl
  · -- A digit is no letter, so it stays itself.
    rw [toLower_digit digit]
    rintro rfl
    exact absurd digit (by decide)
  all_goals decide

end Characters

namespace Decimal

open NumberLiteral

/-- A numeral is made of the characters of numerals. -/
theorem Spelled.isNumeral (spelled : Spelled text) :
    ∀ character ∈ text, isNumeralCharacter character = true := by
  have ofDigits : ∀ {digits : List Char}, (∀ character ∈ digits, character.isDigit = true) →
      ∀ character ∈ digits, isNumeralCharacter character = true :=
    fun all character inside => isNumeralCharacter_of_isDigit (all character inside)
  have ofSign : ∀ {negative : Bool} {sign : List Char}, SignSpelled negative sign →
      ∀ character ∈ sign, isNumeralCharacter character = true := by
    intro negative sign signed
    cases signed <;> simp [isNumeralCharacter]
  -- Each part of the numeral is looked at by itself.
  obtain ⟨signed, whole, pointed, -, scaled⟩ := spelled
  refine List.forall_mem_append.mpr ⟨ofSign signed, List.forall_mem_append.mpr
    ⟨ofDigits whole, List.forall_mem_append.mpr ⟨?_, ?_⟩⟩⟩
  · cases pointed with
    | absent => simp
    | present all => exact List.forall_mem_cons.mpr ⟨rfl, ofDigits all⟩
  · cases scaled with
    | absent => simp
    | present marked signed _ all =>
      refine List.forall_mem_cons.mpr ⟨?_, List.forall_mem_append.mpr ⟨ofSign signed, ofDigits all⟩⟩
      rcases marked with rfl | rfl <;> rfl

/-- A numeral has a digit, and so is not empty. -/
theorem Spelled.ne_nil (spelled : Spelled text) : text ≠ [] := by
  obtain ⟨decimal, found⟩ := spelled.exists_read
  -- The reader takes nothing from the empty text.
  rintro rfl
  contradiction

/-- The text of a numeral with blanks around it, if there are any. -/
inductive PaddedSpelled : List Char → Prop
  /-- The blanks in front and behind are of any number and kind. -/
  | intro {front numeral back : List Char} (before : ∀ character ∈ front, Text.isBlank character = true)
      (spelled : Spelled numeral) (behind : ∀ character ∈ back, Text.isBlank character = true) :
      PaddedSpelled (front ++ (numeral ++ back))

/-- A numeral is what is left when blanks around it are trimmed. -/
theorem Spelled.trim_append {front back : List Char} (spelled : Spelled text)
    (before : ∀ character ∈ front, Text.isBlank character = true)
    (behind : ∀ character ∈ back, Text.isBlank character = true) :
    Text.trim Text.isBlank (front ++ (text ++ back)) = text :=
  Text.trim_append before behind fun character inside =>
    isBlank_of_isNumeralCharacter (spelled.isNumeral character inside)

/-- A numeral has no blanks at its ends. -/
theorem Spelled.trim_eq (spelled : Spelled text) : Text.trim Text.isBlank text = text :=
  Text.trim_of_none fun character inside =>
    isBlank_of_isNumeralCharacter (spelled.isNumeral character inside)

/-- A text is a numeral between blanks if a numeral is left of it when it is trimmed. -/
theorem paddedSpelled_iff : PaddedSpelled text ↔ Spelled (Text.trim Text.isBlank text) := by
  -- Trimming takes away just the blanks, since a numeral has none at its ends.
  constructor
  · rintro ⟨before, spelled, behind⟩
    rwa [spelled.trim_append before behind]
  · intro spelled
    obtain ⟨front, back, before, behind, parts⟩ := Text.exists_trim Text.isBlank text
    rw [parts]
    exact .intro before spelled behind

end Decimal

namespace Floating

/-- No word is made of the characters of numerals. -/
theorem word?_eq_none {negative : Bool}
    (all : ∀ character ∈ text, isNumeralCharacter character = true) : word? negative text = none := by
  -- Every word has the letter n, and so would the text in one case or the other.
  have noLetter : 'n' ∉ text.map Char.toLower := by
    intro inside
    obtain ⟨character, member, lower⟩ := List.mem_map.mp inside
    exact toLower_ne_of_isNumeralCharacter (all character member) lower
  have differs : ∀ word : List Char, 'n' ∈ word → (text.map Char.toLower == word) = false := by
    intro word letter
    rw [beq_eq_false_iff_ne]
    rintro rfl
    exact noLetter letter
  simp [word?, differs]

/-- Among the texts made of the characters of numerals none but the numerals is read. -/
theorem read_eq (all : ∀ character ∈ text, isNumeralCharacter character = true) :
    read text = (Decimal.read text).map fun decimal => number decimal.toDouble := by
  unfold read
  cases Decimal.read text with
  | some decimal => rfl
  | none =>
    cases taken : Decimal.takeSign text with
    | mk negative unsigned =>
      -- A sign in front does not make a word of the rest.
      obtain ⟨sign, -, rfl⟩ := Decimal.exists_of_takeSign taken
      exact word?_eq_none (List.forall_mem_append.mp all).2

end Floating

/-- What a text counts as is what a reader of numerals alone makes of it between its blanks. -/
theorem floatingText?_eq (text : String) :
    floatingText? text =
      (Decimal.read (Text.trim Text.isBlank text.toList)).map fun decimal =>
        .number decimal.toDouble := by
  rw [floatingText?]
  generalize Text.trim Text.isBlank text.toList = trimmed
  by_cases refused : (trimmed.isEmpty || !trimmed.all isNumeralCharacter) = true
  · -- What is refused is no numeral, as a numeral is not empty and has no other characters.
    have unread : Decimal.read trimmed = none := by
      rw [← Option.not_isSome_iff_eq_none, Decimal.read_isSome_iff]
      intro spelled
      have all : trimmed.all isNumeralCharacter = true := List.all_eq_true.mpr spelled.isNumeral
      simp [spelled.ne_nil, all] at refused
    simp [refused, unread]
  · -- What is not refused has the characters of numerals alone.
    have all : trimmed.all isNumeralCharacter = true := by
      simp only [Bool.or_eq_true, Bool.not_eq_true', not_or, Bool.not_eq_false] at refused
      exact refused.2
    simp only [refused, Floating.read_eq (List.all_eq_true.mp all)]
    rfl

/-- A word in place of a numeral is refused, although the reader knows it. -/
example : Floating.read "-Infinity".toList = some (.number (.infinity true)) ∧
    floatingText? "-Infinity" = none := by decide

/-- The number that a text counts as is that of its numeral. -/
theorem numericText?_eq (text : String) :
    numericText? text =
      (Decimal.read (Text.trim Text.isBlank text.toList)).map Decimal.toDouble := by
  rw [numericText?, floatingText?_eq]
  cases Decimal.read (Text.trim Text.isBlank text.toList) <;> rfl

/-- The text of a number as a field is read as a number. -/
theorem Number.exists_numericText? (number : Number) :
    ∃ double, numericText? (String.ofList number.fieldText) = some double := by
  obtain ⟨decimal, found⟩ := number.spelled_fieldText.exists_read
  -- The text has no blanks around it, so it is read as it is.
  refine ⟨decimal.toDouble, ?_⟩
  rw [numericText?_eq, String.toList_ofList, number.spelled_fieldText.trim_eq, found, Option.map_some]

/--
A text counts as a number exactly if it is a decimal numeral with nothing but blanks around it: a
sign or none, digits with a point anywhere among them or none, at least one of them, and an exponent
or none. Whatever a text counts as is a number. And all numbers are numerals as fields.
-/
theorem numericTexts_areNumerals :
    (∀ text : String, (floatingText? text).isSome = true ↔ Decimal.PaddedSpelled text.toList) ∧
    (∀ text : String, floatingText? text ≠ some .notNumber) ∧
    ∀ number : Number, Decimal.Spelled number.fieldText := by
  refine ⟨fun text => ?_, fun text => ?_, Number.spelled_fieldText⟩
  · rw [floatingText?_eq, Option.isSome_map, Decimal.read_isSome_iff, Decimal.paddedSpelled_iff]
  · rw [floatingText?_eq]
    cases Decimal.read (Text.trim Text.isBlank text.toList) <;> simp

end RecordFilter
