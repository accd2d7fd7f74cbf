import RecordFilter.Proofs.Numeric.Numerals
import RecordFilter.Proofs.Pattern.Anchoring
import RecordFilter.Proofs.Text.Trim

/-! An operand without marks of patterns stands for itself: it is
looked for character by character. -/

namespace RecordFilter

/-- The set of one character holds no other. -/
theorem CharSet.holds_single {character taken : Char} :
    (single character).holds taken = true ↔ taken = character := by
  simp only [single, holds, Bool.and_eq_true, decide_eq_true_eq]
  constructor
  · rintro ⟨least, most⟩
    exact le_antisymm most least
  · rintro rfl
    exact ⟨le_rfl, le_rfl⟩

namespace Regex

variable {last : Option Regex} {regex : Regex} {part rest text : List Char} {spot : Spot}

/-- The expression that characters are read as, one after another behind the last item so far. -/
def literals : Option Regex → List Char → Regex
  | last, [] => last.getD .empty
  | last, first :: rest =>
    Pattern.before last (literals (some (.character (CharSet.single first))) rest)

/-- Characters one after another are no repetition. -/
theorem literals_bounded (lastBounded : ∀ item ∈ last, item.Bounded) :
    (literals last part).Bounded := by
  induction part generalizing last with
  | nil =>
    -- Only the last item in front could be one, and it is not.
    cases last with
    | none => trivial
    | some item => exact lastBounded item rfl
  | cons first part ih =>
    have others : (literals (some (.character (CharSet.single first))) part).Bounded :=
      ih (by rintro item ⟨⟩; trivial)
    cases last with
    | none => exact others
    | some item => exact ⟨lastBounded item rfl, others⟩

/-- Every character takes one state, behind those of the last item so far. -/
theorem states_literals :
    (literals last part).states = (last.getD .empty).states + part.length := by
  induction part generalizing last with
  | nil => rfl
  | cons first part ih =>
    cases last with
    | none =>
      simp only [literals, Pattern.before, ih, Option.getD_none, Option.getD_some, states,
        List.length_cons]
      omega
    | some item =>
      simp only [literals, Pattern.before, ih, Option.getD_some, states, List.length_cons]
      omega

/-- A single character leads on where it comes next. -/
theorem exists_matches_single {next : Char} :
    (∃ later, (character (CharSet.single next)).Matches spot later ∧ later.after = rest) ↔
      spot.after = next :: rest := by
  constructor
  · rintro ⟨later, matched, rfl⟩
    cases matched with
    | character step belongs =>
      -- The character taken is the one that the set holds, and it stood at the front.
      obtain rfl := CharSet.holds_single.mp belongs
      unfold Spot.next? at step
      split at step
      · contradiction
      · rename_i ahead
        cases step
        exact ahead
  · intro ahead
    exact ⟨⟨spot.position + 1, some next, rest⟩, .character (by rw [Spot.next?, ahead])
      (CharSet.holds_single.mpr rfl), rfl⟩

/-- An expression behind the last item leads on from where that item leads,
or from where it stands itself. -/
theorem exists_matches_before :
    (∃ later, (Pattern.before last regex).Matches spot later ∧ later.after = rest) ↔
      ∃ middle, (last.getD .empty).Matches spot middle ∧
        ∃ later, regex.Matches middle later ∧ later.after = rest := by
  cases last with
  | none =>
    constructor
    · intro leads
      exact ⟨spot, .empty spot, leads⟩
    · rintro ⟨middle, ⟨⟩, leads⟩
      exact leads
  | some item =>
    constructor
    · rintro ⟨later, matched, left⟩
      cases matched with
      | sequence first second => exact ⟨_, first, later, second, left⟩
    · rintro ⟨middle, first, later, second, left⟩
      exact ⟨later, .sequence first second, left⟩

/-- Characters behind the last item lead over just these characters,
and leave what comes after them. -/
theorem exists_matches_literals :
    (∃ later, (literals last part).Matches spot later ∧ later.after = rest) ↔
      ∃ middle, (last.getD .empty).Matches spot middle ∧ middle.after = part ++ rest := by
  -- The induction is on the characters, each of which is the last item for those behind it.
  induction part generalizing last spot with
  | nil => rfl
  | cons first part ih =>
    -- From wherever the last item leads, the first character leads on to the others.
    have others : ∀ middle : Spot,
        (∃ later, (literals (some (.character (CharSet.single first))) part).Matches middle later ∧
          later.after = rest) ↔ middle.after = first :: (part ++ rest) := fun middle =>
      ih.trans exists_matches_single
    simp only [literals, exists_matches_before, others, List.cons_append]

/-- Characters alone lead over the start of a text if the text starts with them. -/
theorem exists_matches_literals_start :
    (∃ later, (literals none part).Matches (Spot.start text) later ∧ later.after = rest) ↔
      text = part ++ rest := by
  rw [exists_matches_literals]
  constructor
  · rintro ⟨middle, ⟨⟩, ahead⟩
    exact ahead
  · intro ahead
    exact ⟨Spot.start text, .empty _, ahead⟩

end Regex

namespace Pattern

variable {flags : Flags} {character : Char} {part rest more : List Char} {last : Option Regex}

/-- The characters that stand for something else than themselves in a pattern. -/
def marks : List Char := ['\\', '.', '^', '$', '*', '+', '?', '|', '(', ')', '[', '\x7b']

/-- A character that is no mark begins no repetition. -/
theorem readRepetition_ordinary (ordinary : character ∉ marks) :
    readRepetition flags (character :: rest) = some none := by
  unfold readRepetition
  split
  case h_5 => rfl
  all_goals simp_all [marks]

variable [Engine]

/-- A character that is no mark is an item of its own. -/
theorem readItem_ordinary {fuel : Nat} (ordinary : character ∉ marks) :
    readItem (fuel + 1) ⟨Flags.initial, []⟩ (character :: rest) =
      some (some (.character (CharSet.single character)), ⟨Flags.initial, []⟩, rest) := by
  have primitive : readPrimitive Flags.initial (character :: rest) =
      some (.character (CharSet.single character), rest) := by
    unfold readPrimitive
    split <;> simp_all [marks, literal, Flags.close, Flags.initial]
  -- Groups and classes open with marks, so the character is a primitive.
  unfold readItem
  split
  case h_3 => rw [primitive, Option.map_some]
  all_goals simp_all [marks]

/-- Characters without marks are read one by one, up to the parenthesis that closes their group. -/
theorem readSequence_ordinary {fuel : Nat} (ordinary : ∀ character ∈ part, character ∉ marks)
    (enough : part.length + 2 ≤ fuel) :
    readSequence fuel ⟨Flags.initial, []⟩ last (part ++ ')' :: more) =
      some (Regex.literals last part, ⟨Flags.initial, []⟩, ')' :: more) := by
  induction part generalizing last fuel with
  | nil =>
    obtain ⟨fuel, rfl⟩ := Nat.exists_eq_add_of_le' (show 1 ≤ fuel by omega)
    rfl
  | cons character part ih =>
    rw [List.length_cons] at enough
    obtain ⟨fuel, rfl⟩ := Nat.exists_eq_add_of_le' (show 2 ≤ fuel by omega)
    have first : character ∉ marks := ordinary character List.mem_cons_self
    have others : ∀ character ∈ part, character ∉ marks := fun character inside =>
      ordinary character (List.mem_cons_of_mem _ inside)
    -- Nor does the character end the sequence, since bars and parentheses are marks.
    have inSequence : character ≠ '|' ∧ character ≠ ')' := by
      simp only [marks, List.mem_cons, not_or] at first
      exact ⟨by tauto, by tauto⟩
    rw [List.cons_append, readSequence_item inSequence rfl (readRepetition_ordinary first),
      readItem_ordinary first, Option.bind_some]
    dsimp only
    -- The character is the last item now, and the others are read behind it.
    rw [ih others (by omega), Option.map_some]
    rfl

end Pattern

namespace Operator

variable {op : Operator} {field : Option Json} {operand : Json} {part text : List Char}

/-- A text in which no delimiter occurs is kept as a whole. -/
theorem bare_of_none (none_ : ∀ character ∈ part, character ≠ '/' ∧ character ≠ '^' ∧ character ≠ '$') :
    op.bare part = part := by
  have start : Text.trimStart (fun character => character == '/' || character == '^') part = part :=
    Text.trimStart_of_none fun character inside => by simp [none_ character inside]
  have ending : Text.trimEnd (fun character => character == '$' || character == '/') part = part :=
    Text.trimEnd_of_none fun character inside => by simp [none_ character inside]
  -- Only a full match drops anything, and there is nothing to drop.
  unfold bare
  split
  · rw [← Text.trimStart, start]
    exact ending
  · rfl

/-- A text occurs in another if that consists of it and of what stands before and after it. -/
theorem occursIn_iff : occursIn part text = true ↔ part <:+: text := by
  -- The induction is on the text, from each place of which the other may start.
  induction text with
  | nil => rw [occursIn, List.isEmpty_iff, List.infix_nil]
  | cons character rest ih =>
    rw [occursIn, Bool.or_eq_true, List.isPrefixOf_iff_prefix, ih, List.infix_cons_iff]

/-- An operator on texts asks for nothing but its relation between them. -/
theorem relatesTexts_eq {relation : List Char → List Char → Bool}
    (fieldText : (field.getD .null).fieldText? = some text)
    (operandText : operand.fieldText? = some part) :
    relatesTexts relation field operand = relation text part := by
  rw [relatesTexts, fieldText, operandText]

section Engine

variable [Pattern.Engine]

/-- The pattern of an operand without marks looks for the characters of the operand. -/
theorem read_wrapped_ordinary (ordinary : ∀ character ∈ op.bare part, character ∉ Pattern.marks) :
    Pattern.read (op.wrapped part) = some (op.framed (Regex.literals none (op.bare part))) := by
  have length : (op.bare part).length + 5 ≤ (op.wrapped part).length := by
    simp only [wrapped, List.length_cons, List.length_append]
    omega
  -- Four calls lead into the group, and at least three are left for every character in it.
  obtain ⟨fuel, fuelSame⟩ : ∃ fuel, 3 * (op.wrapped part).length + 3 = fuel + 3 + 4 :=
    ⟨3 * (op.wrapped part).length - 4, by omega⟩
  have inner : Pattern.readAlternatives (fuel + 3) ⟨Pattern.Flags.initial, []⟩
      (op.bare part ++ ')' :: op.closing) = some (Regex.literals none (op.bare part),
        ⟨Pattern.Flags.initial, []⟩, ')' :: op.closing) := by
    rw [Pattern.readAlternatives, Pattern.readSequence_ordinary ordinary (by omega)]
    rfl
  exact read_wrapped_of_closed fuelSame inner

/-- A field without a text form passes none of the operators on texts. -/
theorem test_eq_false_of_noText (textual : op ∈ [startsWith, fullMatch, endsWith, contains])
    (noText : (field.getD .null).fieldText? = none) : op.test field operand = false := by
  simp only [List.mem_cons, List.not_mem_nil, or_false] at textual
  rcases textual with rfl | rfl | rfl | rfl
  · simp [test, matchesField, noText]
  · simp [test, matchesField, noText]
  · simp [test, relatesTexts, noText]
  · simp [test, relatesTexts, noText]

/-- A pattern operator with an operand without marks leads over the characters of the operand, if
the engine takes the pattern at all. -/
theorem test_ordinary_iff (op : Operator) (pattern : op.isPattern = true)
    (ordinary : ∀ character ∈ op.bare part, character ∉ Pattern.marks)
    (fieldText : (field.getD .null).fieldText? = some text)
    (operandText : operand.fieldText? = some part) :
    op.test field operand = true ↔ Pattern.Engine.exceeds (op.wrapped part) = false ∧
      ∃ rest, text = op.bare part ++ rest ∧ (op = fullMatch → rest = []) := by
  have bounded : (Regex.literals none (op.bare part)).Bounded := Regex.literals_bounded (by simp)
  have leads : (op.framed (Regex.literals none (op.bare part))).matchesIn text = true ↔
      ∃ rest, text = op.bare part ++ rest ∧ (op = fullMatch → rest = []) := by
    rw [framed_matchesIn bounded]
    simp only [← Regex.exists_matches_literals_start]
    -- What is left of the text is what the expression has not led over.
    constructor
    · rintro ⟨later, matched, ended⟩
      exact ⟨later.after, ⟨later, matched, rfl⟩, ended⟩
    · rintro ⟨_, ⟨later, matched, rfl⟩, ended⟩
      exact ⟨later, matched, ended⟩
  -- The pattern is found in the text if it is taken at all.
  rw [test_eq_true_iff pattern fieldText operandText, ← leads]
  simp only [Found, Pattern.compile?_eq_some_iff, read_wrapped_ordinary ordinary, Option.some.injEq]
  constructor
  · rintro ⟨_, ⟨within, rfl⟩, found⟩
    exact ⟨within, found⟩
  · rintro ⟨within, found⟩
    exact ⟨_, ⟨within, rfl⟩, found⟩

end Engine

section Plain

variable (plain : part.all CharSet.asciiWord.holds = true)

include plain

/-- Neither the marks of patterns nor slashes are letters, digits or underscores. -/
theorem not_mem_marks_of_plain : ∀ character ∈ part, character ∉ '/' :: Pattern.marks := by
  have marksOutside : ('/' :: Pattern.marks).all (fun mark => !CharSet.asciiWord.holds mark) = true := rfl
  intro character inside isMark
  have belongs := List.all_eq_true.mp plain character inside
  have differs := List.all_eq_true.mp marksOutside character isMark
  simp [belongs] at differs

/-- A full match would drop delimiters at both ends, but there are none. -/
theorem bare_of_plain (op : Operator) : op.bare part = part :=
  bare_of_none fun character inside => by
    have absent := not_mem_marks_of_plain plain character inside
    simp only [Pattern.marks, List.mem_cons, not_or] at absent
    tauto

/-- So the pattern that the operand alone makes has no marks. -/
theorem ordinary_of_plain (op : Operator) : ∀ character ∈ op.bare part, character ∉ Pattern.marks := by
  rw [bare_of_plain plain op]
  exact fun character inside isMark =>
    not_mem_marks_of_plain plain character inside (List.mem_cons_of_mem _ isMark)

/-- A plain text neither opens a group nor closes one. -/
theorem nesting_of_plain (isOpen deepest : Nat) (behind : List Char) :
    Pattern.Standard.nesting isOpen deepest (part ++ behind) =
      Pattern.Standard.nesting isOpen deepest behind := by
  induction part with
  | nil => rfl
  | cons character part ih =>
    have absent := not_mem_marks_of_plain plain character List.mem_cons_self
    simp only [Pattern.marks, List.mem_cons, not_or] at absent
    rw [List.all_cons, Bool.and_eq_true] at plain
    -- Neither a backslash nor a parenthesis stands here.
    rw [List.cons_append, Pattern.Standard.nesting.eq_5, ih plain.2] <;> tauto

/-- The standard engine takes the patterns of a plain operand that is not too long for its room. -/
theorem exceeds_wrapped_plain (op : Operator)
    (short : part.length + 2 ≤ Pattern.Standard.sizeLimit / Pattern.Standard.stateSize) :
    Pattern.Engine.exceeds (op.wrapped part) = false := by
  -- The group around the operand is the only one.
  have shallow : Pattern.Standard.nesting 0 0 (op.wrapped part) = 1 := by
    have opens : Pattern.Standard.nesting 0 0 (op.wrapped part) =
        Pattern.Standard.nesting 1 1 (part ++ ')' :: op.closing) := by
      rw [wrapped, bare_of_plain plain]
      rfl
    rw [opens, nesting_of_plain plain]
    cases op <;> rfl
  have reads := @read_wrapped_ordinary op part Pattern.Standard.unlimited (ordinary_of_plain plain op)
  -- There is a state for every character, and one for either end of the text.
  have states : (op.framed (Regex.literals none (op.bare part))).states ≤ part.length + 2 := by
    have body : (Regex.literals none (op.bare part)).states = part.length := by
      rw [Regex.states_literals, bare_of_plain plain]
      exact Nat.zero_add _
    cases op <;> simp only [framed, Regex.states, body] <;> omega
  have room : Pattern.Standard.stateSize * (part.length + 2) ≤ Pattern.Standard.sizeLimit := by
    rw [Nat.mul_comm]
    exact (Nat.le_div_iff_mul_le (by decide)).mp short
  show Pattern.Standard.exceeds (op.wrapped part) = false
  -- Neither limit is passed: one group is open, and the states fit in the room.
  rw [Pattern.Standard.exceeds, shallow, reads, Option.any_some, Bool.or_eq_false_iff]
  refine ⟨rfl, decide_eq_false ?_⟩
  have := Nat.mul_le_mul_left Pattern.Standard.stateSize states
  omega

variable [Pattern.Engine]

/-- A plain operand is a start, the whole, an end or a part of the text of a field, as the operator
asks: the first two as long as the engine takes the pattern. -/
theorem test_plain_iff (fieldText : (field.getD .null).fieldText? = some text)
    (operandText : operand.fieldText? = some part) :
    (startsWith.test field operand = true ↔
      Pattern.Engine.exceeds (startsWith.wrapped part) = false ∧ part <+: text) ∧
    (fullMatch.test field operand = true ↔
      Pattern.Engine.exceeds (fullMatch.wrapped part) = false ∧ text = part) ∧
    (endsWith.test field operand = true ↔ part <:+ text) ∧
    (contains.test field operand = true ↔ part <:+: text) := by
  refine ⟨?_, ?_, ?_, ?_⟩
  · have leads := test_ordinary_iff startsWith rfl (ordinary_of_plain plain _) fieldText operandText
    simpa only [bare, reduceCtorEq, false_implies, and_true, List.IsPrefix, eq_comm] using leads
  · have leads := test_ordinary_iff fullMatch rfl (ordinary_of_plain plain _) fieldText operandText
    simpa [bare_of_plain plain] using leads
  · rw [test, relatesTexts_eq fieldText operandText, List.isSuffixOf_iff_suffix]
  · rw [test, relatesTexts_eq fieldText operandText, occursIn_iff]

end Plain

section Engine

variable [Pattern.Engine]

/--
An operand of ASCII letters, digits and underscores stands for itself in every operator on texts: a
start, the whole, an end and any part of the text of the field are looked for as they are written.
The first two need patterns within the limits of the engine, which an operand of some hundreds of
thousands of characters may exceed. A container has no text, and passes none of these operators.
-/
theorem test_plainOperand (operandText : operand.fieldText? = some part)
    (plain : part.all CharSet.asciiWord.holds = true)
    (within : ∀ op : Operator, op.isPattern = true →
      Pattern.Engine.exceeds (op.wrapped part) = false) (field : Option Json) :
    (∀ text, (field.getD .null).fieldText? = some text →
      (startsWith.test field operand = true ↔ part <+: text) ∧
      (fullMatch.test field operand = true ↔ text = part) ∧
      (endsWith.test field operand = true ↔ part <:+ text) ∧
      (contains.test field operand = true ↔ part <:+: text)) ∧
    ((∃ items, field = some (.array items)) ∨ (∃ members, field = some (.object members)) →
      ∀ op ∈ [startsWith, fullMatch, endsWith, contains], op.test field operand = false) ∧
    (fullMatch.test field operand = true → startsWith.test field operand = true ∧
      endsWith.test field operand = true ∧ contains.test field operand = true) ∧
    (startsWith.test field operand = true → contains.test field operand = true) ∧
    (endsWith.test field operand = true → contains.test field operand = true) := by
  have literally : ∀ text, (field.getD .null).fieldText? = some text →
      (startsWith.test field operand = true ↔ part <+: text) ∧
      (fullMatch.test field operand = true ↔ text = part) ∧
      (endsWith.test field operand = true ↔ part <:+ text) ∧
      (contains.test field operand = true ↔ part <:+: text) := by
    intro text fieldText
    simpa only [within startsWith rfl, within fullMatch rfl, true_and] using
      test_plain_iff plain fieldText operandText
  refine ⟨literally, ?_, ?_⟩
  · rintro (⟨items, rfl⟩ | ⟨members, rfl⟩) op textual
    · exact test_eq_false_of_noText textual rfl
    · exact test_eq_false_of_noText textual rfl
  · cases fieldText : (field.getD .null).fieldText? with
    | none =>
      -- Without a text nothing holds, so nothing follows.
      have never : ∀ op ∈ [startsWith, fullMatch, endsWith, contains],
          op.test field operand = false := fun op textual => test_eq_false_of_noText textual fieldText
      simp [never]
    | some text =>
      obtain ⟨starts, equals, ends, inside⟩ := literally text fieldText
      rw [starts, equals, ends, inside]
      refine ⟨?_, List.IsPrefix.isInfix, List.IsSuffix.isInfix⟩
      rintro rfl
      exact ⟨List.prefix_rfl, List.suffix_rfl, List.infix_rfl⟩

end Engine

/-- A text that goes on over a line break starts with such an operand,
and is not matched as a whole. -/
theorem test_plainOperand_lines :
    startsWith.test (some (.string "a_1\nΩ")) (.string "a_1") = true ∧
      ¬fullMatch.test (some (.string "a_1\nΩ")) (.string "a_1") = true := by
  have operandText : (Json.string "a_1").fieldText? = some ['a', '_', '1'] := rfl
  have within : ∀ op : Operator, op.isPattern = true →
      Pattern.Engine.exceeds (op.wrapped ['a', '_', '1']) = false :=
    fun op _ => exceeds_wrapped_plain rfl op (by decide)
  obtain ⟨starts, equals, -, -⟩ :=
    (test_plainOperand operandText rfl within (some (.string "a_1\nΩ"))).1 _ rfl
  exact ⟨starts.mpr (by decide), fun whole => absurd (equals.mp whole) (by decide)⟩

end Operator

end RecordFilter
