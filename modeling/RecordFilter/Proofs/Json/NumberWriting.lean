import RecordFilter.Json.Printer
import RecordFilter.Json.Reader
import RecordFilter.Proofs.Json.Reading
import RecordFilter.Proofs.Numeric.Digits

/-! The text of a number spells a literal of the number. -/

namespace RecordFilter

/-- Whether a character may stand in the text of a number. -/
def isNumberCharacter (character : Char) : Bool :=
  character.isDigit || ['.', 'e', '+', '-'].contains character

/-- Nothing but the characters of numbers stands in a text. -/
def OnlyNumber (text : List Char) : Prop :=
  ∀ character ∈ text, isNumberCharacter character = true

section OnlyNumber

variable {text rest : List Char}

/-- Two texts are made of such characters together if each of them is. -/
theorem onlyNumber_append : OnlyNumber (text ++ rest) ↔ OnlyNumber text ∧ OnlyNumber rest := by
  simp [OnlyNumber, or_imp, forall_and]

/-- The first character counts like all others. -/
theorem onlyNumber_cons {character : Char} :
    OnlyNumber (character :: rest) ↔ isNumberCharacter character = true ∧ OnlyNumber rest := by
  simp [OnlyNumber]

/-- Leaving characters out brings in no others. -/
theorem onlyNumber_of_subset (all : OnlyNumber text) (subset : ∀ character ∈ rest, character ∈ text) :
    OnlyNumber rest :=
  fun character member => all character (subset character member)

/-- The digits of a number are such characters. -/
theorem onlyNumber_digits (value : Nat) : OnlyNumber (digits value) := by
  intro character member
  simp [isNumberCharacter, digits_isDigit value character member]

/-- Zeros are such characters. -/
theorem onlyNumber_zeros (count : Nat) : OnlyNumber (List.replicate count '0') := by
  intro character member
  rw [List.eq_of_mem_replicate member]
  decide

/-- Digits without the zeros at their end are still digits. -/
theorem onlyNumber_trimmed (value : Nat) :
    OnlyNumber ((digits value).reverse.dropWhile (· == '0')).reverse := by
  refine onlyNumber_of_subset (onlyNumber_digits value) fun character member => ?_
  -- Dropping at the end is dropping at the start of the reverse, which keeps the characters.
  have inside := (List.dropWhile_sublist _).subset (List.mem_reverse.mp member)
  exact List.mem_reverse.mp inside

/-- No space stands among the characters of numbers. -/
theorem eq_nil_of_onlyNumber (all : OnlyNumber text) (blank : OnlySpace text) : text = [] := by
  cases text with
  | nil => rfl
  | cons character more =>
    have visible : Visible isNumberCharacter := visible_of_excluded (by decide)
    have shown := visible character (all character (by simp))
    rw [blank character (by simp)] at shown
    contradiction

end OnlyNumber

namespace DoubleLayout

variable {layout : DoubleLayout} {text : List Char}

/-- Digits in their places are written with nothing but a point and zeros. -/
theorem onlyNumber_positional (suffix : OnlyNumber layout.wholeSuffix) (kept : OnlyNumber text)
    (whole : Int) : OnlyNumber (layout.positional text whole) := by
  unfold positional
  simp only
  -- The point stands in front of the digits, among them, or not at all.
  split
  · exact onlyNumber_cons.mpr ⟨by decide, onlyNumber_cons.mpr
      ⟨by decide, onlyNumber_append.mpr ⟨onlyNumber_zeros _, kept⟩⟩⟩
  · split
    · have front : OnlyNumber (text.take whole.toNat) :=
        onlyNumber_of_subset kept fun _ => List.mem_of_mem_take
      have back : OnlyNumber (text.drop whole.toNat) :=
        onlyNumber_of_subset kept fun _ => List.mem_of_mem_drop
      exact onlyNumber_append.mpr ⟨front, onlyNumber_cons.mpr ⟨by decide, back⟩⟩
    · exact onlyNumber_append.mpr ⟨onlyNumber_append.mpr ⟨kept, onlyNumber_zeros _⟩, suffix⟩

/-- A mantissa is written with nothing but a point behind its first digit. -/
theorem onlyNumber_mantissa (kept : OnlyNumber text) : OnlyNumber (mantissa text) := by
  unfold mantissa
  split
  · simp only [onlyNumber_cons] at kept ⊢
    exact ⟨kept.1, by decide, kept.2⟩
  · exact kept

/-- Behind a mantissa come a marker, a sign and digits. -/
theorem onlyNumber_scientific (sign : OnlyNumber layout.exponentSign) (kept : OnlyNumber text)
    (exponent : Int) : OnlyNumber (layout.scientific text exponent) := by
  -- The exponent is digits behind a sign, which only a layout may leave out.
  have signed : OnlyNumber (if exponent < 0 then ['-'] else layout.exponentSign) := by
    split
    · simp [OnlyNumber, isNumberCharacter]
    · exact sign
  unfold scientific
  simp only [List.append_assoc, List.cons_append]
  exact onlyNumber_append.mpr ⟨onlyNumber_mantissa kept, onlyNumber_cons.mpr
    ⟨by decide, onlyNumber_append.mpr ⟨signed, onlyNumber_digits _⟩⟩⟩

/-- Digits, a point, padding and an exponent are all that a double is written with. -/
theorem onlyNumber_write (suffix : OnlyNumber layout.wholeSuffix)
    (sign : OnlyNumber layout.exponentSign) (value : Double) : OnlyNumber (layout.write value) := by
  have minus : OnlyNumber (if value.negative then ['-'] else []) := by
    split <;> simp [OnlyNumber, isNumberCharacter]
  unfold write
  simp only
  split
  · exact onlyNumber_append.mpr ⟨minus, onlyNumber_cons.mpr ⟨by decide, suffix⟩⟩
  · -- Either layout is made of the shortest digits without the zeros at their end.
    refine onlyNumber_append.mpr ⟨minus, ?_⟩
    split
    · exact onlyNumber_positional suffix (onlyNumber_trimmed _) _
    · exact onlyNumber_scientific sign (onlyNumber_trimmed _) _

end DoubleLayout

/-- Only a number literal denotes a number. -/
theorem Written.number_of_value? {room : Nat} {written : Written} {number : Number}
    (value : written.value? room = some (.number number)) :
    ∃ literal, written = .number literal ∧ literal.value? = some number := by
  -- Every other kind of document denotes a value of another kind.
  cases written with
  | number literal =>
    obtain ⟨same, literalValue, numbers⟩ := Option.map_eq_some_iff.mp value
    obtain rfl := Json.number.inj numbers
    exact ⟨literal, rfl, literalValue⟩
  | _ => cases room <;> simp [Written.value?] at value

namespace Number

/-- Nothing but the characters of numbers stands in the text of a number. -/
theorem onlyNumber_text (number : Number) : OnlyNumber number.text := by
  cases number with
  | integer value inRange =>
    -- An integer is its digits, with a minus sign in front if it is negative.
    rw [text, integerText]
    split
    · exact onlyNumber_cons.mpr ⟨by decide, onlyNumber_digits _⟩
    · exact onlyNumber_digits _
  | double value finite =>
    have suffix : OnlyNumber documentLayout.wholeSuffix := by
      simp [OnlyNumber, documentLayout, isNumberCharacter]
    have sign : OnlyNumber documentLayout.exponentSign := by
      simp [OnlyNumber, documentLayout, isNumberCharacter]
    exact DoubleLayout.onlyNumber_write suffix sign value

/-- A number whose text is read as the same number. -/
def ReadsBack (number : Number) : Prop :=
  Json.read number.text = some (.number number)

/-- A number text holds no space, so reading it as a document reads a bare literal. -/
theorem readsBack_iff {number : Number} :
    number.ReadsBack ↔
      ∃ literal : NumberLiteral, literal.Spelled number.text ∧ literal.value? = some number := by
  constructor
  · intro reads
    -- The text is read as a written document first, which spells a front part of it.
    obtain ⟨written, found, value⟩ := Option.bind_eq_some_iff.mp reads
    obtain ⟨before, front, after, blank, moreBlank, spelled, parts⟩ :=
      Written.read_eq_some_iff.mp found
    -- Space on either side would have to be made of characters of numbers.
    have visible := number.onlyNumber_text
    rw [parts, onlyNumber_append, onlyNumber_append] at visible
    rw [eq_nil_of_onlyNumber visible.1 blank, eq_nil_of_onlyNumber visible.2.2 moreBlank,
      List.nil_append, List.append_nil] at parts
    obtain ⟨literal, rfl, literalValue⟩ := Written.number_of_value? value
    cases spelled with
    | number spelled => exact ⟨literal, parts ▸ spelled, literalValue⟩
  · rintro ⟨literal, spelled, value⟩
    have found : Written.read number.text = some (.number literal) :=
      Written.read_eq_some_iff.mpr
        ⟨[], number.text, [], onlySpace_nil, onlySpace_nil, .number spelled, by simp⟩
    simp [ReadsBack, Json.read, found, Written.value?, value]

/-- Every integer is read back, whatever its size and sign. -/
theorem integer_readsBack (value : Int)
    (inRange : -9223372036854775808 ≤ value ∧ value < 18446744073709551616) :
    (integer value inRange).ReadsBack := by
  obtain ⟨first, more, parts, leading⟩ := digits_leading value.natAbs
  -- A leading zero stands alone, as the grammar asks of whole digits.
  have whole : Written.isWhole (digits value.natAbs) = true := by
    rw [parts]
    unfold Written.isWhole
    split
    · contradiction
    · rfl
    · rename_i notZero same
      obtain ⟨rfl, rfl⟩ := List.cons.inj same
      simp only [bne_iff_ne]
      intro zero
      exact notZero zero (leading zero).2
  refine readsBack_iff.mpr ⟨⟨decide (value < 0), digits value.natAbs, none, none⟩, ?_, ?_⟩
  · have spelled : NumberLiteral.Spelled ⟨decide (value < 0), digits value.natAbs, none, none⟩
        (NumberLiteral.minus (decide (value < 0)) ++ digits value.natAbs ++ [] ++ []) :=
      .intro (digits_isDigit value.natAbs) whole .absent .absent
    have same : (integer value inRange).text =
        NumberLiteral.minus (decide (value < 0)) ++ digits value.natAbs ++ [] ++ [] := by
      by_cases negative : value < 0 <;> simp [text, integerText, NumberLiteral.minus, negative]
    rwa [same]
  · -- The sign is negative for no zero, so the literal is read as an integer, not as minus zero.
    have kept : NumberLiteral.integer? ⟨decide (value < 0), digits value.natAbs, none, none⟩ =
        some (integer value inRange) := by
      by_cases negative : value < 0
      · have opposite : -(value.natAbs : Int) = value := by omega
        have nonzero : value.natAbs ≠ 0 := by omega
        simp only [NumberLiteral.integer?, ofDigits_digits, negative, decide_true, if_true,
          beq_iff_eq, nonzero, if_false, opposite]
        exact dif_pos inRange
      · have same : (value.natAbs : Int) = value := by omega
        simp only [NumberLiteral.integer?, ofDigits_digits, negative, decide_false,
          Bool.false_eq_true, if_false, same]
        exact dif_pos inRange
    rw [NumberLiteral.value?, kept, Option.some_or]

/-- The least positive double, whose shortest decimal is five in its last place. -/
def leastPositive : Number :=
  .double ⟨false, 1, by decide⟩ (by decide)

/-- The reader rounds at every step, and still finds the least double behind its text. -/
theorem leastPositive_readsBack : leastPositive.ReadsBack := by
  have text : leastPositive.text =
      NumberLiteral.minus false ++ ['5'] ++ [] ++ 'e' :: (['-'] ++ ['3', '2', '4']) := by
    decide +kernel
  refine readsBack_iff.mpr ⟨⟨false, ['5'], none, some (true, ['3', '2', '4'])⟩, ?_, by decide +kernel⟩
  have five : ∀ character ∈ ['5'], character.isDigit = true := List.all_eq_true.mp (by decide)
  have places : ∀ character ∈ ['3', '2', '4'], character.isDigit = true :=
    List.all_eq_true.mp (by decide)
  rw [text]
  exact .intro five (by decide) .absent (.present (.inl rfl) .minus (by decide) places)

end Number

end RecordFilter
