import RecordFilter.Operator
import RecordFilter.Pattern.Standard
import RecordFilter.Proofs.Text.Trim

/-! A full match does not see the delimiters around its operand, whatever
they and the operand consist of. -/

namespace RecordFilter

namespace Operator

/-- Whether a character is a delimiter in front of a pattern. -/
def isOpening (character : Char) : Bool := character == '/' || character == '^'

/-- Whether a character is a delimiter behind a pattern. -/
def isClosing (character : Char) : Bool := character == '$' || character == '/'

/-- A text is another one with delimiters around it, and that one
has no more of them at its ends. -/
structure Delimits (text inner : List Char) : Prop where
  /-- Delimiters stand in front of the inner text and behind it. -/
  parts : ∃ front back, (∀ character ∈ front, isOpening character = true) ∧
    (∀ character ∈ back, isClosing character = true) ∧ text = front ++ (inner ++ back)
  /-- The inner text does not begin with one. -/
  starts : Leaves isOpening inner
  /-- The inner text does not end with one. -/
  ends : Leaves isClosing inner.reverse

variable {front text back inner : List Char}

/-- Delimiters are dropped in front first, and then behind what is left. -/
theorem withoutDelimiters_eq (text : List Char) :
    withoutDelimiters text = Text.trimEnd isClosing (Text.trimStart isOpening text) := rfl

/-- Delimiters around a text are dropped with those of the text. -/
theorem withoutDelimiters_append (opens : ∀ character ∈ front, isOpening character = true)
    (closes : ∀ character ∈ back, isClosing character = true) :
    withoutDelimiters (front ++ (text ++ back)) = withoutDelimiters text := by
  rw [withoutDelimiters_eq, withoutDelimiters_eq, Text.trimStart_append opens]
  -- The delimiters at the start of the text are taken off on both
  -- sides, and then it has none there.
  obtain ⟨taken, all, parts, leaves⟩ := Text.exists_trimStart isOpening text
  rw [parts, List.append_assoc, Text.trimStart_append all, Text.trimStart_append all,
    Text.trimStart_of_leaves leaves]
  generalize Text.trimStart isOpening text = rest at leaves
  cases rest with
  | nil =>
    -- The start of what stands behind may be dropped at once, and the end of it drops the rest.
    have left : ∀ character ∈ Text.trimStart isOpening back, isClosing character = true :=
      fun character inside => closes character ((List.dropWhile_suffix isOpening).subset inside)
    rw [List.nil_append, Text.trimEnd_of_all left]
    rfl
  | cons first more =>
    -- The first character of the text that is no delimiter keeps all behind it for the end.
    have kept : Leaves isOpening (first :: more ++ back) := leaves_cons.mpr (leaves_cons.mp leaves)
    rw [Text.trimStart_of_leaves kept, Text.trimEnd_append closes]

/-- Without its delimiters a text is the one text that it delimits. -/
theorem withoutDelimiters_eq_iff : withoutDelimiters text = inner ↔ Delimits text inner := by
  constructor
  · rintro rfl
    obtain ⟨front, opens, frontParts, starts⟩ := Text.exists_trimStart isOpening text
    obtain ⟨back, closes, backParts, ends⟩ :=
      Text.exists_trimEnd isClosing (Text.trimStart isOpening text)
    rw [← withoutDelimiters_eq] at backParts ends
    refine ⟨⟨front, back, opens, closes, backParts ▸ frontParts⟩, ?_, ends⟩
    -- What is left at the end still begins as what was left at the start.
    rw [backParts] at starts
    cases left : withoutDelimiters text with
    | nil => exact leaves_nil
    | cons first more =>
      rw [left] at starts
      exact leaves_cons.mpr (leaves_cons.mp starts)
  · rintro ⟨⟨front, back, opens, closes, rfl⟩, starts, ends⟩
    rw [withoutDelimiters_append opens closes, withoutDelimiters_eq, Text.trimStart_of_leaves starts,
      Text.trimEnd_of_leaves ends]

/-- A full match looks for what its operand delimits, from the start of the text to its end. -/
theorem pattern?_fullMatch (operand : String) :
    fullMatch.pattern? (.string operand) =
      some (anchored (withoutDelimiters operand.toList) ++ ['$']) := rfl

section Engine

variable [Pattern.Engine]

/-- A full match depends on its operand only through the pattern. -/
theorem test_fullMatch_congr {operand other : Json}
    (same : fullMatch.pattern? operand = fullMatch.pattern? other) (field : Option Json) :
    fullMatch.test field operand = fullMatch.test field other := by
  simp only [test, regex?, same]

/--
Slashes and carets in front of an operand and dollar signs and slashes behind it do not change its
full match: with them and without them the pattern is made of the one text that the operand itself
delimits, so both match the same fields. The operand may have delimiters at its own ends, be nothing
else, or be empty.
-/
theorem fullMatch_ignores_delimiters (front operand back : String)
    (opens : ∀ character ∈ front.toList, character = '/' ∨ character = '^')
    (closes : ∀ character ∈ back.toList, character = '$' ∨ character = '/') :
    (∃ inner, Delimits operand.toList inner ∧
      fullMatch.pattern? (.string (front ++ operand ++ back)) = some (anchored inner ++ ['$']) ∧
      fullMatch.pattern? (.string operand) = some (anchored inner ++ ['$'])) ∧
    ∀ field, fullMatch.test field (.string (front ++ operand ++ back)) =
      fullMatch.test field (.string operand) := by
  have parts : (front ++ operand ++ back).toList =
      front.toList ++ (operand.toList ++ back.toList) := by simp
  have bare : withoutDelimiters (front ++ operand ++ back).toList =
      withoutDelimiters operand.toList := by
    rw [parts]
    exact withoutDelimiters_append
      (fun character inside => by simpa [isOpening] using opens character inside)
      (fun character inside => by simpa [isClosing] using closes character inside)
  -- Both patterns are made of the same text, and the test sees no more of the operand than that.
  refine ⟨⟨_, withoutDelimiters_eq_iff.mp rfl, ?_, pattern?_fullMatch operand⟩, ?_⟩
  · rw [pattern?_fullMatch, bare]
  · refine test_fullMatch_congr ?_
    rw [pattern?_fullMatch, pattern?_fullMatch, bare]

end Engine

/-- A slash alone may be taken for a delimiter on either side, and a caret at the end for none. -/
theorem fullMatch_ignores_delimiters_overlap :
    (fullMatch.pattern? (.string ("^/" ++ "/" ++ "/$")) = fullMatch.pattern? (.string "/") ∧
      fullMatch.pattern? (.string "/") = some "^(?:)$".toList) ∧
    fullMatch.pattern? (.string ("/" ++ "$a^/" ++ "$")) = some "^(?:$a^)$".toList := by
  obtain ⟨⟨inner, -, around, alone⟩, -⟩ :=
    fullMatch_ignores_delimiters "^/" "/" "/$" (by simp) (by simp)
  obtain ⟨⟨_, -, other, otherAlone⟩, -⟩ :=
    fullMatch_ignores_delimiters "/" "$a^/" "$" (by simp) (by simp)
  exact ⟨⟨around.trans alone.symm, rfl⟩, other.trans (otherAlone.symm.trans rfl)⟩

end Operator

end RecordFilter
