import RecordFilter.Path
import RecordFilter.Proofs.Numeric.Digits

/-! Texts of positions: which texts name one, and which of them is the
one that a position is written as. -/

namespace RecordFilter

/-- How a position may be spelled: as digits behind an optional plus
sign, in the range of 64 bits. -/
inductive PositionSpelled : List Char → Nat → Prop
  /-- Zeros may stand in front of the other digits. -/
  | intro {sign digits : List Char} (signed : sign = [] ∨ sign = ['+']) (some_ : digits ≠ [])
      (all : ∀ character ∈ digits, character.isDigit = true)
      (inRange : ofDigits digits < twoTo 64) : PositionSpelled (sign ++ digits) (ofDigits digits)

/-- A spelling of a position with more in front than it needs: a plus
sign, or a zero before other digits. -/
structure PositionPadded (text : List Char) : Prop where
  /-- The text is the spelling of a position. -/
  spelled : ∃ position, PositionSpelled text position
  /-- It begins with a plus sign, or with a zero that is not its only digit. -/
  front : ∃ rest, text = '+' :: rest ∨ text = '0' :: rest ∧ rest ≠ []

variable {text : List Char} {name : String} {position : Nat}

/-- Digits are read as a position if there are any and their number is in range. -/
theorem digitsRead_iff {digits : List Char} :
    (!digits.isEmpty && digits.all Char.isDigit && decide (ofDigits digits < twoTo 64)) = true ↔
      digits ≠ [] ∧ (∀ character ∈ digits, character.isDigit = true) ∧
        ofDigits digits < twoTo 64 := by
  simp only [Bool.and_eq_true, Bool.not_eq_true', List.isEmpty_eq_false_iff, List.all_eq_true,
    decide_eq_true_eq, and_assoc, ne_eq]

/-- A digit is no plus sign. -/
theorem ne_plus_of_isDigit {digit : Char} (isDigit : digit.isDigit = true) : digit ≠ '+' := by
  rintro rfl
  exact absurd isDigit (by decide)

/-- A text names a position exactly if it spells it. -/
theorem position?_eq_some_iff : position? name = some position ↔ PositionSpelled name.toList position := by
  simp only [position?]
  -- The two arms of the reading differ in the plus sign alone.
  constructor
  · intro found
    split at found
    · rename_i rest signed
      obtain ⟨read, same⟩ := Option.ite_none_right_eq_some.mp found
      obtain rfl := Option.some.inj same
      obtain ⟨some_, all, inRange⟩ := digitsRead_iff.mp read
      have spelled : PositionSpelled (['+'] ++ rest) _ := .intro (.inr rfl) some_ all inRange
      rw [signed]
      exact spelled
    · obtain ⟨read, same⟩ := Option.ite_none_right_eq_some.mp found
      obtain rfl := Option.some.inj same
      obtain ⟨some_, all, inRange⟩ := digitsRead_iff.mp read
      have spelled : PositionSpelled ([] ++ name.toList) _ := .intro (.inl rfl) some_ all inRange
      exact spelled
  · -- Only how the text is spelled matters, and not which name it is of.
    generalize name.toList = text
    rintro ⟨signed, some_, all, inRange⟩
    have read := digitsRead_iff.mpr ⟨some_, all, inRange⟩
    rcases signed with rfl | rfl
    · -- Without a sign the first character is a digit, so nothing is taken for a sign.
      obtain ⟨first, more, rfl⟩ := List.exists_cons_of_ne_nil some_
      have noSign := ne_plus_of_isDigit (all first List.mem_cons_self)
      split
      · rename_i rest same
        exact absurd (List.cons.inj same).1 noSign
      · exact if_pos read
    · exact if_pos read

/-- Whatever is spelled is in range. -/
theorem PositionSpelled.lt (spelled : PositionSpelled text position) : position < twoTo 64 := by
  obtain ⟨-, -, -, inRange⟩ := spelled
  exact inRange

/-- A text names no position exactly if it spells none. -/
theorem position?_eq_none_iff :
    position? name = none ↔ ∀ position, ¬PositionSpelled name.toList position := by
  simp only [Option.eq_none_iff_forall_ne_some, ne_eq, position?_eq_some_iff]

/-- A spelling of a position that is not padded is the text that the position is written as. -/
theorem PositionSpelled.eq_digits (spelled : PositionSpelled text position)
    (plain : ¬PositionPadded text) : text = digits position := by
  -- Padding is a property of the spelling, so the spelling is kept for it.
  have isSpelled : ∃ position, PositionSpelled text position := ⟨position, spelled⟩
  cases spelled with
  | intro signed some_ all inRange =>
    rcases signed with rfl | rfl
    · obtain ⟨first, more, rfl⟩ := List.exists_cons_of_ne_nil some_
      refine (digits_ofDigits all fun zero => Decidable.byContradiction fun others => ?_).symm
      -- A zero in front of other digits would be padding.
      exact plain ⟨isSpelled, more, .inr ⟨by rw [zero]; rfl, others⟩⟩
    · -- Neither may there be a plus sign.
      exact absurd ⟨isSpelled, _, .inl rfl⟩ plain

/-- The text that a position is written as spells it. -/
theorem positionSpelled_digits (inRange : position < twoTo 64) :
    PositionSpelled (digits position) position := by
  obtain ⟨first, more, parts, -⟩ := digits_leading position
  -- A number is written with at least its leading digit.
  have some_ : digits position ≠ [] := by simp [parts]
  have spelled := PositionSpelled.intro (.inl rfl) some_ (digits_isDigit position)
    (by rwa [ofDigits_digits])
  rwa [ofDigits_digits] at spelled

/-- The text that a number is written as is not padded. -/
theorem not_positionPadded_digits (value : Nat) : ¬PositionPadded (digits value) := by
  obtain ⟨first, more, parts, leading⟩ := digits_leading value
  rintro ⟨-, rest, signed | ⟨zero, others⟩⟩
  · -- A plus sign is no digit, and only digits are written.
    have isDigit := digits_isDigit value first (by simp [parts])
    rw [parts] at signed
    exact ne_plus_of_isDigit isDigit (List.cons.inj signed).1
  · -- A leading zero is written for zero alone, and has nothing behind it.
    rw [parts] at zero
    obtain ⟨isZero, rfl⟩ := List.cons.inj zero
    exact others (leading isZero).2

/-- A position is read from the text that it is written as. -/
theorem position?_digits (inRange : position < twoTo 64) :
    position? (String.ofList (digits position)) = some position := by
  rw [position?_eq_some_iff, String.toList_ofList]
  exact positionSpelled_digits inRange

/-- A text that names a position is that of the position, unless it is padded. -/
theorem eq_ofList_digits (found : position? name = some position) (plain : ¬PositionPadded name.toList) :
    name = String.ofList (digits position) := by
  rw [← (position?_eq_some_iff.mp found).eq_digits plain, String.ofList_toList]

end RecordFilter
