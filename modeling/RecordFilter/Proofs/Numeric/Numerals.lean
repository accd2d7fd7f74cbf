import RecordFilter.Comparison
import RecordFilter.Proofs.Json.NumberWriting

/-! Decimal numerals as texts: they and no others are read, and every number is written as one. -/

namespace RecordFilter

open NumberLiteral

namespace Decimal

/-- The digits behind a point, and their text with the point, which may stand without any. -/
inductive PointSpelled : List Char → List Char → Prop
  /-- No point, and so no digits behind it. -/
  | absent : PointSpelled [] []
  /-- A point with digits behind it, if any. -/
  | present {digits : List Char} (all : ∀ character ∈ digits, character.isDigit = true) :
      PointSpelled digits ('.' :: digits)

/-- The text of a numeral without a sign: digits with a point anywhere
among them, and an exponent. -/
inductive UnsignedSpelled : List Char → Prop
  /-- At least one digit stands on either side of the point. -/
  | intro {whole fraction pointText exponentText : List Char} {exponent : Option (Bool × List Char)}
      (all : ∀ character ∈ whole, character.isDigit = true)
      (pointed : PointSpelled fraction pointText) (some_ : whole ++ fraction ≠ [])
      (scaled : ExponentSpelled exponent exponentText) :
      UnsignedSpelled (whole ++ (pointText ++ exponentText))

/-- The text of a numeral. -/
inductive Spelled : List Char → Prop
  /-- A sign, which may be left out, and the rest. -/
  | intro {negative : Bool} {sign text : List Char} (signed : SignSpelled negative sign)
      (unsigned : UnsignedSpelled text) : Spelled (sign ++ text)

variable {text : List Char}

/-- The sign of a numeral is taken off as that of an exponent is. -/
theorem takeSign_eq_takeExponentSign (text : List Char) :
    takeSign text = Written.takeExponentSign text := by
  unfold takeSign
  split
  · rfl
  · rfl
  · rename_i noMinus noPlus
    exact (Written.takeExponentSign.eq_3 text noMinus noPlus).symm

/-- An exponent is read as a whole. -/
theorem exists_readExponent {exponent : Option (Bool × List Char)}
    (scaled : ExponentSpelled exponent text) : ∃ value, readExponent text = some value := by
  -- An exponent that is left out is read as zero.
  cases scaled with
  | absent => exact ⟨0, rfl⟩
  | @present marker negative sign digits marked signed some_ all =>
    have taken : takeSign (sign ++ digits) = (negative, digits) := by
      simpa [takeSign_eq_takeExponentSign] using signed.takeExponentSign_append [] some_ all
    have all : digits.all Char.isDigit = true := List.all_eq_true.mpr all
    rcases marked with rfl | rfl <;> simp [readExponent, taken, some_, all]

/-- An exponent is neither taken for a further digit nor for a point. -/
theorem leaves_exponent {exponent : Option (Bool × List Char)}
    (scaled : ExponentSpelled exponent text) :
    Leaves Char.isDigit text ∧ Leaves (· == '.') text := by
  have ends : Leaves continuesNumber [] := leaves_nil
  simpa using scaled.leaves_append ends

/-- Digits end in front of a point or of an exponent. -/
theorem PointSpelled.leaves_append {fraction pointText : List Char}
    {exponent : Option (Bool × List Char)} (pointed : PointSpelled fraction pointText)
    (scaled : ExponentSpelled exponent text) : Leaves Char.isDigit (pointText ++ text) := by
  cases pointed with
  | absent => exact (leaves_exponent scaled).1
  | present => exact leaves_cons.mpr rfl

/-- The digits behind a point are taken off in front of an exponent. -/
theorem PointSpelled.takeFraction_append {fraction pointText : List Char}
    {exponent : Option (Bool × List Char)} (pointed : PointSpelled fraction pointText)
    (scaled : ExponentSpelled exponent text) :
    takeFraction (pointText ++ text) = (fraction, text) := by
  obtain ⟨noDigit, noPoint⟩ := leaves_exponent scaled
  cases pointed with
  | absent =>
    cases text with
    | nil => rfl
    | cons first more =>
      have differs : first ≠ '.' := by simpa using noPoint
      simp [takeFraction, differs]
  | present all => exact spanDigits_append all noDigit

/-- No sign is taken off a numeral that has none. -/
theorem UnsignedSpelled.takeSign_eq (unsigned : UnsignedSpelled text) :
    takeSign text = (false, text) := by
  -- A numeral starts with a digit or with its point.
  have opens : ∃ first more, text = first :: more ∧ (first = '.' ∨ first.isDigit = true) := by
    cases unsigned with
    | @intro whole fraction pointText exponentText exponent all pointed some_ scaled =>
      cases whole with
      | cons first more => exact ⟨first, _, rfl, .inr (all first (by simp))⟩
      | nil =>
        cases pointed with
        | absent => exact absurd rfl some_
        | present => exact ⟨'.', _, rfl, .inl rfl⟩
  obtain ⟨first, more, rfl, rfl | digit⟩ := opens
  · rfl
  · obtain ⟨notMinus, notPlus, _⟩ := isDigit_ne digit
    simp [takeSign, notMinus, notPlus]

/-- Every text of a numeral is read. -/
theorem Spelled.exists_read (spelled : Spelled text) : ∃ decimal, read text = some decimal := by
  obtain ⟨signed, unsigned⟩ := spelled
  rename_i negative sign text
  have taken : takeSign (sign ++ text) = (negative, text) := by
    cases signed with
    | minus | plus => rfl
    | absent => exact unsigned.takeSign_eq
  cases unsigned with
  | @intro whole fraction pointText exponentText exponent all pointed some_ scaled =>
    -- The parts are taken off one behind the other, and each is read.
    obtain ⟨value, exponentRead⟩ := exists_readExponent scaled
    have digits : ¬((whole.isEmpty && fraction.isEmpty) = true) := by simpa using some_
    refine ⟨⟨negative, ofDigits (whole ++ fraction), value - fraction.length⟩, ?_⟩
    rw [read, taken]
    simp only [spanDigits_append all (pointed.leaves_append scaled),
      pointed.takeFraction_append scaled, if_neg digits, exponentRead, Option.map_some]

/-- What is taken off a text as a sign is one. -/
theorem exists_of_takeSign {negative : Bool} {rest : List Char}
    (taken : takeSign text = (negative, rest)) :
    ∃ sign, SignSpelled negative sign ∧ text = sign ++ rest := by
  rw [takeSign_eq_takeExponentSign] at taken
  exact SignSpelled.of_take taken

/-- What is read as an exponent is one, or nothing at all. -/
theorem exists_of_readExponent {value : Int} (found : readExponent text = some value) :
    ∃ exponent, ExponentSpelled exponent text := by
  cases text with
  | nil => exact ⟨none, .absent⟩
  | cons marker rest =>
    -- Behind the marker the sign is taken off, and nothing but digits may be left.
    cases taken : takeSign rest with
    | mk negative digits =>
      obtain ⟨sign, signed, rfl⟩ := exists_of_takeSign taken
      simp only [readExponent, taken] at found
      obtain ⟨accepted, -⟩ := Option.ite_none_right_eq_some.mp found
      simp only [Bool.and_eq_true, Bool.or_eq_true, beq_iff_eq, Bool.not_eq_true',
        List.isEmpty_eq_false_iff, List.all_eq_true] at accepted
      obtain ⟨⟨marked, some_⟩, all⟩ := accepted
      exact ⟨_, .present marked signed some_ all⟩

/-- What is taken off a text as a fraction is a point with digits behind it, or nothing at all. -/
theorem exists_of_takeFraction {fraction rest : List Char}
    (taken : takeFraction text = (fraction, rest)) :
    ∃ pointText, PointSpelled fraction pointText ∧ text = pointText ++ rest := by
  unfold takeFraction at taken
  split at taken
  · obtain ⟨parts, all, -⟩ := span_parts taken
    exact ⟨_, .present all, by rw [parts, List.cons_append]⟩
  · obtain ⟨rfl, rfl⟩ := Prod.mk.inj taken
    exact ⟨[], .absent, rfl⟩

/-- Nothing is read but the text of a numeral. -/
theorem Spelled.of_read {decimal : Decimal} (found : read text = some decimal) : Spelled text := by
  -- The parts are taken off from the front to the back, and each is spelled as the grammar has it.
  cases signTaken : takeSign text with
  | mk negative unsigned =>
    cases wholeTaken : spanDigits unsigned with
    | mk whole afterWhole =>
      cases fractionTaken : takeFraction afterWhole with
      | mk fraction exponentText =>
        simp only [read, signTaken, wholeTaken, fractionTaken] at found
        obtain ⟨digits, found⟩ := Option.ite_none_left_eq_some.mp found
        obtain ⟨value, exponentRead, -⟩ := Option.map_eq_some_iff.mp found
        obtain ⟨sign, signed, rfl⟩ := exists_of_takeSign signTaken
        obtain ⟨rfl, all, -⟩ := span_parts wholeTaken
        obtain ⟨pointText, pointed, rfl⟩ := exists_of_takeFraction fractionTaken
        obtain ⟨exponent, scaled⟩ := exists_of_readExponent exponentRead
        exact .intro signed (.intro all pointed (by simpa using digits) scaled)

/-- The texts that are read are the numerals. -/
theorem read_isSome_iff : (read text).isSome = true ↔ Spelled text :=
  ⟨fun some_ => .of_read (Option.eq_some_of_isSome some_), fun spelled =>
    Option.isSome_iff_exists.mpr spelled.exists_read⟩

/-- A numeral with or without a minus sign in front is one. -/
theorem UnsignedSpelled.signed (unsigned : UnsignedSpelled text) (negative : Bool) :
    Spelled (minus negative ++ text) := by
  cases negative with
  | false => exact .intro .absent unsigned
  | true => exact .intro .minus unsigned

/-- Digits alone are a numeral. -/
theorem unsignedSpelled_digits (value : Nat) : UnsignedSpelled (digits value) := by
  obtain ⟨first, more, parts, _⟩ := digits_leading value
  have spelled : UnsignedSpelled (digits value ++ ([] ++ [])) :=
    .intro (digits_isDigit value) .absent (by simp [parts]) .absent
  simpa using spelled

end Decimal

namespace DoubleLayout

open Decimal

variable {kept : List Char}

/-- Digits written positionally are a numeral. -/
theorem unsignedSpelled_positional (all : ∀ character ∈ kept, character.isDigit = true)
    (whole : Int) : UnsignedSpelled (documentLayout.positional kept whole) := by
  have zeros : ∀ count, ∀ character ∈ List.replicate count '0', character.isDigit = true := by
    intro count character member
    rw [List.eq_of_mem_replicate member]
    rfl
  have both : ∀ {front back : List Char}, (∀ character ∈ front, character.isDigit = true) →
      (∀ character ∈ back, character.isDigit = true) →
      ∀ character ∈ front ++ back, character.isDigit = true := fun first second character member =>
    (List.mem_append.mp member).elim (first character) (second character)
  unfold positional
  simp only
  split
  · -- A zero stands in front of the point, and the digits behind it.
    have spelled : UnsignedSpelled
        (['0'] ++ ('.' :: (List.replicate (-whole).toNat '0' ++ kept) ++ [])) :=
      .intro (by simp) (.present (both (zeros _) all)) (by simp) .absent
    simpa using spelled
  · rename_i positive
    split
    · -- The point stands among the digits, of which there is at least one in front of it.
      rename_i inside
      have front : kept.take whole.toNat ++ kept.drop whole.toNat ≠ [] := by
        rw [List.take_append_drop]
        rintro rfl
        simp only [List.length_nil] at inside
        omega
      have spelled : UnsignedSpelled
          (kept.take whole.toNat ++ ('.' :: kept.drop whole.toNat ++ [])) :=
        .intro (fun character member => all character (List.mem_of_mem_take member))
          (.present fun character member => all character (List.mem_of_mem_drop member)) front
          .absent
      simpa using spelled
    · have spelled : UnsignedSpelled
          ((kept ++ List.replicate (whole - kept.length).toNat '0') ++ (['.', '0'] ++ [])) :=
        .intro (both all (zeros _)) (.present (by simp)) (by simp) .absent
      simpa [documentLayout] using spelled

/-- The point of a mantissa stands behind its first digit, if others follow. -/
theorem exists_mantissa (all : ∀ character ∈ kept, character.isDigit = true) :
    ∃ whole fraction pointText, (∀ character ∈ whole, character.isDigit = true) ∧
      PointSpelled fraction pointText ∧ whole ++ fraction = kept ∧
      mantissa kept = whole ++ pointText := by
  -- A single digit has no point behind it.
  unfold mantissa
  split
  · rename_i first second more
    obtain ⟨firstDigit, others⟩ := List.forall_mem_cons.mp all
    exact ⟨[first], second :: more, _, by simpa using firstDigit, .present others, rfl, rfl⟩
  · exact ⟨kept, [], [], all, .absent, by simp, by simp⟩

/-- Digits written with an exponent are a numeral, if there are any. -/
theorem unsignedSpelled_scientific (all : ∀ character ∈ kept, character.isDigit = true)
    (some_ : kept ≠ []) (exponent : Int) :
    UnsignedSpelled (documentLayout.scientific kept exponent) := by
  obtain ⟨firstPlace, otherPlaces, parts, _⟩ := digits_leading exponent.natAbs
  have places : digits exponent.natAbs ≠ [] := by simp [parts]
  obtain ⟨whole, fraction, pointText, wholeAll, pointed, rfl, text⟩ := exists_mantissa all
  simp only [scientific, text, List.append_assoc, List.cons_append]
  -- The sign of the exponent is always written.
  by_cases negative : exponent < 0
  · simp only [negative, if_true]
    exact .intro wholeAll pointed some_ (.present (.inl rfl) .minus places (digits_isDigit _))
  · simp only [negative, if_false]
    exact .intro wholeAll pointed some_ (.present (.inl rfl) .plus places (digits_isDigit _))

/-- Digits that denote more than nothing are not only zeros. -/
theorem trimmed_ne_nil {value : Nat} (nonzero : value ≠ 0) :
    ((digits value).reverse.dropWhile (· == '0')).reverse ≠ [] := by
  obtain ⟨first, more, parts, leading⟩ := digits_leading value
  intro none_
  have zeros := List.dropWhile_eq_nil_iff.mp (List.reverse_eq_nil_iff.mp none_)
  -- The first digit would be a zero as well, and that stands in front of no other number.
  have zero : first = '0' := by simpa using zeros first (by simp [parts])
  exact nonzero (leading zero).1

/-- The shortest decimal is zero only where the search for one was in vain. -/
theorem shortest_coefficient {value : Double} (nonzero : value.isZero = false) :
    value.shortest.coefficient ≠ 0 ∨ value.shortest = ⟨value.negative, 0, 0⟩ := by
  unfold Double.shortest
  cases found : value.candidates.find? (fun decimal => decimal.toDouble == value) with
  | none => exact .inr rfl
  | some decimal =>
    refine .inl fun zero => ?_
    -- A decimal of nothing is a zero, but the one that was found is the value.
    have same : decimal.toDouble = value := by simpa using List.find?_some found
    have isZero : decimal.toDouble = Double.zero decimal.negative := by
      rw [Decimal.toDouble]
      simp [show decimal.coefficient = 0 from zero]
    rw [← same, isZero] at nonzero
    exact absurd nonzero (by simp [Double.isZero, Double.zero])

/-- Every double is written as a numeral. -/
theorem spelled_write (value : Double) : Decimal.Spelled (documentLayout.write value) := by
  unfold write
  cases zero : value.isZero with
  | true =>
    have spelled : UnsignedSpelled (['0'] ++ (['.', '0'] ++ [])) :=
      .intro (by simp) (.present (by simp)) (by simp) .absent
    exact spelled.signed value.negative
  | false =>
    -- A minus sign stands in front of a numeral without one.
    refine UnsignedSpelled.signed ?_ value.negative
    have all : ∀ character ∈
        ((digits value.shortest.coefficient).reverse.dropWhile (· == '0')).reverse,
        character.isDigit = true := by
      intro character member
      have inside := (List.dropWhile_sublist _).subset (List.mem_reverse.mp member)
      exact digits_isDigit _ character (List.mem_reverse.mp inside)
    split
    · exact unsignedSpelled_positional all _
    · rename_i far
      refine unsignedSpelled_scientific all (trimmed_ne_nil ?_) _
      -- A double that is not found would be written positionally, so there are digits here.
      obtain some_ | fallback := shortest_coefficient zero
      · exact some_
      · have one : digits 0 = ['0'] := by rw [digits]; rfl
        rw [fallback, one] at far
        exact (far rfl).elim

end DoubleLayout

namespace Number

/-- The text of a number as a field is a numeral. -/
theorem spelled_fieldText (number : Number) : Decimal.Spelled number.fieldText := by
  -- A whole double is written without its fraction, and any other one in full.
  cases number with
  | integer value inRange =>
    have spelled := (Decimal.unsignedSpelled_digits value.natAbs).signed (decide (value < 0))
    by_cases negative : value < 0 <;>
      simpa [fieldText, text, integerText, minus, negative] using spelled
  | double value finite =>
    rw [fieldText]
    split
    · have spelled := (Decimal.unsignedSpelled_digits value.wholePart).signed value.negative
      cases negative : value.negative <;> simpa [minus, negative] using spelled
    · exact DoubleLayout.spelled_write value

end Number

end RecordFilter
