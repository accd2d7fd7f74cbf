import RecordFilter.Proofs.Json.Grammar

/-! Reading a number takes exactly the texts that spell one. -/

namespace RecordFilter

/-- Whether a character behind a number would belong to it. -/
def continuesNumber (character : Char) : Bool :=
  character.isDigit || character == '.' || character == 'e' || character == 'E'

/-- No space goes on with a number. -/
theorem visible_continuesNumber : Visible continuesNumber :=
  visible_of_excluded (by decide)

/-- A digit is no letter of either case. -/
theorem toLower_digit {character : Char} (digit : character.isDigit = true) :
    character.toLower = character := by
  simp only [Char.isDigit, Bool.and_eq_true, decide_eq_true_eq] at digit
  unfold Char.toLower
  rw [dif_neg]
  rintro ⟨letter, _⟩
  -- The ten digits stand in front of all letters.
  exact absurd (UInt32.le_trans letter digit.2) (by decide)

namespace NumberLiteral

variable {rest : List Char}

/-- What ends a number ends its digits. -/
theorem leaves_digits (ends : Leaves continuesNumber rest) : Leaves Char.isDigit rest := by
  intro character first
  have stops := ends character first
  simp only [continuesNumber, Bool.or_eq_false_iff] at stops
  exact stops.1.1.1

/-- What ends a number is no point. -/
theorem leaves_point (ends : Leaves continuesNumber rest) : Leaves (· == '.') rest := by
  intro character first
  have stops := ends character first
  simp only [continuesNumber, Bool.or_eq_false_iff] at stops
  exact stops.1.1.2

/-- A digit opens neither a fraction, nor an exponent, nor a sign. -/
theorem isDigit_ne {character : Char} (digit : character.isDigit = true) :
    character ≠ '-' ∧ character ≠ '+' ∧ character ≠ '.' ∧ character ≠ 'e' ∧ character ≠ 'E' := by
  refine ⟨?_, ?_, ?_, ?_, ?_⟩ <;> (rintro rfl; revert digit; decide)

namespace SignSpelled

variable {negative : Bool} {sign digits : List Char}

/-- The sign of an exponent is taken off the digits behind it. -/
theorem takeExponentSign_append (signed : SignSpelled negative sign) (rest : List Char)
    (some_ : digits ≠ []) (all : ∀ character ∈ digits, character.isDigit = true) :
    Written.takeExponentSign (sign ++ (digits ++ rest)) = (negative, digits ++ rest) := by
  cases signed with
  | minus => rfl
  | plus => rfl
  | absent =>
    -- A sign that is left out shows nothing but the first digit.
    cases digits with
    | nil => contradiction
    | cons digit more =>
      -- A digit is not mistaken for the sign that is not there.
      obtain ⟨notMinus, notPlus, _⟩ := isDigit_ne (all digit (by simp))
      simp [Written.takeExponentSign, notMinus, notPlus]

/-- What the reader takes for a sign is spelled as one. -/
theorem of_take {text unsigned : List Char}
    (taken : Written.takeExponentSign text = (negative, unsigned)) :
    ∃ sign, SignSpelled negative sign ∧ text = sign ++ unsigned := by
  -- The reader knows two signs, and takes none off any other text.
  unfold Written.takeExponentSign at taken
  split at taken <;> obtain ⟨rfl, rfl⟩ := Prod.mk.inj taken
  · exact ⟨['-'], .minus, rfl⟩
  · exact ⟨['+'], .plus, rfl⟩
  · exact ⟨[], .absent, rfl⟩

end SignSpelled

namespace FractionSpelled

variable {fraction : Option (List Char)} {text : List Char}

/-- A fraction or its absence ends the digits in front of it. -/
theorem leaves_append (spelled : FractionSpelled fraction text) (ends : Leaves Char.isDigit rest) :
    Leaves Char.isDigit (text ++ rest) := by
  cases spelled with
  | absent => exact ends
  | present => exact leaves_cons.mpr rfl

/-- A spelled fraction is read up to its end. -/
theorem readFraction_append (spelled : FractionSpelled fraction text)
    (noDigit : Leaves Char.isDigit rest) (noPoint : Leaves (· == '.') rest) :
    Written.readFraction (text ++ rest) = some (fraction, rest) := by
  cases spelled with
  | absent =>
    cases rest with
    | nil => rfl
    | cons character more =>
      -- Only a point would open a fraction that is not spelled.
      have differs : character ≠ '.' := by simpa using noPoint
      simp [Written.readFraction, differs]
  | present some_ all =>
    simp [Written.readFraction, spanDigits_append all noDigit, some_]

/-- What is read as a fraction is spelled as one. -/
theorem of_read {more : List Char} (read : Written.readFraction more = some (fraction, rest)) :
    ∃ text, FractionSpelled fraction text ∧ more = text ++ rest := by
  unfold Written.readFraction at read
  split at read
  · -- Behind a point there are digits, and at least one of them.
    rename_i behind
    cases found : spanDigits behind with
    | mk digits after =>
      obtain ⟨parts, all, _⟩ := span_parts found
      simp only [found] at read
      split at read
      · contradiction
      · rename_i nonempty
        obtain ⟨rfl, rfl⟩ := Prod.mk.inj (Option.some.inj read)
        exact ⟨'.' :: digits, .present (by simpa using nonempty) all, by simp [parts]⟩
  · -- Without a point the fraction is absent.
    obtain ⟨rfl, rfl⟩ := Prod.mk.inj (Option.some.inj read)
    exact ⟨[], .absent, rfl⟩

end FractionSpelled

namespace ExponentSpelled

variable {exponent : Option (Bool × List Char)} {text : List Char}

/-- An exponent or its absence ends the digits in front of it, and is no fraction. -/
theorem leaves_append (spelled : ExponentSpelled exponent text)
    (ends : Leaves continuesNumber rest) :
    Leaves Char.isDigit (text ++ rest) ∧ Leaves (· == '.') (text ++ rest) := by
  cases spelled with
  | absent => exact ⟨leaves_digits ends, leaves_point ends⟩
  | present marked => rcases marked with rfl | rfl <;> simp [Leaves]

/-- A spelled exponent is read up to its end. -/
theorem readExponent_append (spelled : ExponentSpelled exponent text)
    (ends : Leaves continuesNumber rest) :
    Written.readExponent (text ++ rest) = some (exponent, rest) := by
  cases spelled with
  | absent =>
    cases rest with
    | nil => rfl
    | cons character more =>
      -- Neither marker of an exponent may follow a number without one.
      have stops := leaves_cons.mp ends
      simp only [continuesNumber, Bool.or_eq_false_iff] at stops
      simp [Written.readExponent, stops]
  | present marked signed some_ all =>
    -- The sign is taken off in front of the digits, and these end where the number does.
    have signTaken := signed.takeExponentSign_append rest some_ all
    rcases marked with rfl | rfl <;>
      simp [Written.readExponent, signTaken, spanDigits_append all (leaves_digits ends), some_]

/-- What is read as an exponent is spelled as one. -/
theorem of_read {more : List Char} (read : Written.readExponent more = some (exponent, rest)) :
    ∃ text, ExponentSpelled exponent text ∧ more = text ++ rest := by
  unfold Written.readExponent at read
  split at read
  · obtain ⟨rfl, rfl⟩ := Prod.mk.inj (Option.some.inj read)
    exact ⟨[], .absent, rfl⟩
  · rename_i marker behind
    split at read
    · -- Behind a marker there are a sign and digits, and at least one of these.
      rename_i marked
      cases signed : Written.takeExponentSign behind with
      | mk negative unsigned =>
        cases found : spanDigits unsigned with
        | mk digits after =>
          obtain ⟨sign, spelled, signText⟩ := SignSpelled.of_take signed
          obtain ⟨parts, all, _⟩ := span_parts found
          simp only [signed, found] at read
          split at read
          · contradiction
          · rename_i nonempty
            obtain ⟨rfl, rfl⟩ := Prod.mk.inj (Option.some.inj read)
            exact ⟨marker :: (sign ++ digits),
              .present (by simpa using marked) spelled (by simpa using nonempty) all,
              by simp [signText, parts]⟩
    · -- Any other character is left to what follows the number.
      obtain ⟨rfl, rfl⟩ := Prod.mk.inj (Option.some.inj read)
      exact ⟨[], .absent, rfl⟩

end ExponentSpelled

namespace Spelled

variable {literal : NumberLiteral} {text : List Char}

/-- A minus sign is taken off the digits behind it. -/
theorem takeMinus_append (negative : Bool) {whole : List Char} (rest : List Char)
    (leading : Written.isWhole whole = true)
    (all : ∀ character ∈ whole, character.isDigit = true) :
    Written.takeMinus (minus negative ++ (whole ++ rest)) = (negative, whole ++ rest) := by
  cases negative with
  | true => rfl
  | false =>
    -- A number without digits is not spelled, so there is a first digit to look at.
    cases whole with
    | nil => simp [Written.isWhole] at leading
    | cons digit more =>
      obtain ⟨notMinus, _⟩ := isDigit_ne (all digit (by simp))
      simp [minus, Written.takeMinus, notMinus]

/-- A spelled number is read up to the first character that does not belong to it. -/
theorem readNumber_append (spelled : literal.Spelled text) (ends : Leaves continuesNumber rest) :
    Written.readNumber (text ++ rest) = some (literal, rest) := by
  cases spelled with
  | @intro negative whole fractionText exponentText _ _ all leading fractional scaled =>
    -- Each part ends where the next one begins, so they are taken off one after another.
    obtain ⟨noDigit, noPoint⟩ := scaled.leaves_append ends
    have minusTaken := takeMinus_append negative (fractionText ++ (exponentText ++ rest)) leading all
    have wholeTaken := spanDigits_append all (fractional.leaves_append noDigit)
    simp [Written.readNumber, minusTaken, wholeTaken, leading,
      fractional.readFraction_append noDigit noPoint, scaled.readExponent_append ends]

/-- A number starts with a minus sign or a digit. -/
theorem opens (spelled : literal.Spelled text) :
    ∃ first more, text = first :: more ∧ (first = '-' ∨ first.isDigit = true) := by
  cases spelled with
  | @intro negative whole _ _ _ _ all leading =>
    cases negative with
    | true => exact ⟨'-', _, rfl, .inl rfl⟩
    | false =>
      cases whole with
      | nil => simp [Written.isWhole] at leading
      | cons digit more => exact ⟨digit, _, rfl, .inr (all digit (by simp))⟩

/-- What is read as a number is the text that spells it. -/
theorem of_read (read : Written.readNumber text = some (literal, rest)) :
    ∃ front, literal.Spelled front ∧ text = front ++ rest := by
  unfold Written.readNumber at read
  -- The reader's parts are named first, so that each can be traced back to its own text.
  cases signed : Written.takeMinus text with
  | mk negative unsigned =>
    cases found : spanDigits unsigned with
    | mk whole afterWhole =>
      -- The sign that was taken off stood in front of the digits.
      have sign : text = minus negative ++ unsigned := by
        unfold Written.takeMinus at signed
        split at signed <;> obtain ⟨rfl, rfl⟩ := Prod.mk.inj signed <;> rfl
      obtain ⟨parts, all, _⟩ := span_parts found
      simp only [signed, found] at read
      split at read
      · rename_i leading
        -- Fraction and exponent are read behind the digits, each where the one before it ended.
        obtain ⟨⟨fraction, afterFraction⟩, fractionRead, read⟩ := Option.bind_eq_some_iff.mp read
        obtain ⟨⟨exponent, after⟩, exponentRead, same⟩ := Option.map_eq_some_iff.mp read
        obtain ⟨rfl, rfl⟩ := Prod.mk.inj same
        obtain ⟨fractionText, fractional, fractionParts⟩ := FractionSpelled.of_read fractionRead
        obtain ⟨exponentText, scaled, exponentParts⟩ := ExponentSpelled.of_read exponentRead
        have exponentParts : afterFraction = exponentText ++ after := exponentParts
        -- The parts in their order make up the whole text.
        exact ⟨_, .intro all leading fractional scaled,
          by simp [sign, parts, fractionParts, exponentParts]⟩
      · contradiction

end Spelled

end NumberLiteral

end RecordFilter
