import Mathlib
import RecordFilter.Operator
import RecordFilter.Pattern.Standard
import RecordFilter.Proofs.Pattern.Calls
import RecordFilter.Proofs.Pattern.Reading

/-! What it takes for the operand of a pattern operator to mean the same alone as inside the
anchored group. -/

namespace RecordFilter

namespace Pattern

variable [Engine] {content more : List Char} {fuel : Nat} {scope after : Scope}
  {group others : Regex}

/-- What is read between the parentheses of the group is read as a pattern of its own. -/
theorem readItem_group (fuel : Nat) (content : List Char) :
    readItem (fuel + 1) ⟨Flags.initial, []⟩ ('(' :: '?' :: ':' :: content) =
      (readAlternatives fuel ⟨Flags.initial, []⟩ content).bind fun (group, afterGroup, closing) =>
        match closing with
        | ')' :: after => some (some group, { afterGroup with flags := Flags.initial }, after)
        | _ => none := by
  rfl

/-- An anchored pattern is a caret, the group, and what follows it. -/
theorem readSequence_anchored (fuel : Nat) (content : List Char) :
    readSequence (fuel + 3) ⟨Flags.initial, []⟩ none ('^' :: '(' :: '?' :: ':' :: content) =
      (readItem (fuel + 1) ⟨Flags.initial, []⟩ ('(' :: '?' :: ':' :: content)).bind
        fun (item, afterItem, rest) =>
          (readSequence (fuel + 1) afterItem item rest).map fun (others, after, rest) =>
            (.sequence (.assertion .startOfText) others, after, rest) := by
  have caret : readItem (fuel + 2) ⟨Flags.initial, []⟩ ('^' :: '(' :: '?' :: ':' :: content) =
      some (some (.assertion .startOfText), ⟨Flags.initial, []⟩, '(' :: '?' :: ':' :: content) := by
    rfl
  -- The caret is the first item, and the group behind it the second.
  rw [readSequence_item (by decide) rfl rfl, caret, Option.bind_some]
  dsimp only
  rw [readSequence_item (by decide) rfl rfl]
  cases readItem (fuel + 1) ⟨Flags.initial, []⟩ ('(' :: '?' :: ':' :: content) with
  | none => rfl
  | some found =>
    obtain ⟨item, afterItem, rest⟩ := found
    simp [before, Function.comp_def]

/-- A group that is closed at its end leaves what follows it to the sequence around it. -/
theorem readAlternatives_anchored
    (inner : readAlternatives fuel ⟨Flags.initial, []⟩ content = some (group, scope, ')' :: more))
    (behind : readSequence (fuel + 1) { scope with flags := Flags.initial } (some group) more =
      some (others, after, [])) :
    readAlternatives (fuel + 4) ⟨Flags.initial, []⟩ ('^' :: '(' :: '?' :: ':' :: content) =
      some (.sequence (.assertion .startOfText) others, after, []) := by
  rw [readAlternatives, readSequence_anchored, readItem_group, inner]
  simp [behind]

/-- A text compiles if it is a pattern and within the limits of the engine. -/
theorem compile?_eq_some_iff {text : List Char} {regex : Regex} :
    compile? text = some regex ↔ Engine.exceeds text = false ∧ read text = some regex := by
  unfold compile?
  cases Engine.exceeds text <;> simp

end Pattern

namespace Operator

/-- The part of an operand that is the pattern: for a full match without slashes and carets in
front, and without dollar signs and slashes behind. -/
def bare : Operator → List Char → List Char
  | fullMatch, operand =>
    (operand.dropWhile fun character => character == '/' || character == '^').rdropWhile
      fun character => character == '$' || character == '/'
  | _, operand => operand

/-- What stands behind the group around that pattern: for a full match the end of the text. -/
def closing : Operator → List Char
  | fullMatch => ['$']
  | _ => []

/-- The pattern in a group that must match from the start of the text. -/
def wrapped (op : Operator) (operand : List Char) : List Char :=
  '^' :: '(' :: '?' :: ':' :: (op.bare operand ++ ')' :: op.closing)

/-- The expression that an operator looks for, if its operand alone is read as the given one. -/
def framed : Operator → Regex → Regex
  | fullMatch, regex => .sequence (.assertion .startOfText) (.sequence regex (.assertion .endOfText))
  | _, regex => .sequence (.assertion .startOfText) regex

variable {op : Operator} {operand text : List Char} {regex : Regex}

/-- The pattern that an operator makes of its operand is the one in the group. -/
theorem pattern?_eq {value : Json} (pattern : op.isPattern = true)
    (operandText : value.fieldText? = some operand) :
    op.pattern? value = some (op.wrapped operand) := by
  unfold isPattern at pattern
  split at pattern
  · simp [pattern?, operandText, wrapped, bare, closing, anchored]
  · simp [pattern?, operandText, wrapped, bare, closing, anchored, withoutDelimiters,
      Text.trimStart, Text.trimEnd, List.rdropWhile]
  · contradiction

/-- What an operator looks for is found where its operand leads on from the start of the text, for a
full match to the end. -/
theorem framed_matchesIn (bounded : regex.Bounded) :
    (op.framed regex).matchesIn text = true ↔
      ∃ later, regex.Matches (Spot.start text) later ∧ (op = fullMatch → later.after = []) := by
  -- A full match asks for the end of the text besides.
  cases op with
  | fullMatch =>
    have wholeBounded : (Regex.sequence regex (.assertion .endOfText)).Bounded := ⟨bounded, trivial⟩
    simp [framed, Regex.matchesIn_sequence_startOfText wholeBounded,
      Regex.matches_sequence_endOfText]
  | _ => simp [framed, Regex.matchesIn_sequence_startOfText bounded]

section Engine

variable [Pattern.Engine]

/-- Whether the pattern in the group compiles and is found in a text. -/
def Found (op : Operator) (operand text : List Char) : Prop :=
  ∃ regex, Pattern.compile? (op.wrapped operand) = some regex ∧ regex.matchesIn text = true

/-- A pattern operator holds where the pattern in the group is found. -/
theorem test_eq_true_iff {field : Option Json} {value : Json} (pattern : op.isPattern = true)
    (fieldText : (field.getD .null).fieldText? = some text)
    (operandText : value.fieldText? = some operand) :
    op.test field value = true ↔ op.Found operand text := by
  have searches : op.test field value =
      (Pattern.compile? (op.wrapped operand)).any fun regex => matchesField regex field := by
    have source := pattern?_eq pattern operandText
    unfold isPattern at pattern
    -- Only the two pattern operators are left, and they differ in their source alone.
    split at pattern
    · simp [test, regex?, source]
    · simp [test, regex?, source]
    · contradiction
  rw [searches, Option.any_eq_true]
  simp [Found, matchesField, fieldText]

/-- If the group is closed behind the operand, the pattern is the
one in the frame of the operator. -/
theorem read_wrapped_of_closed {fuel : Nat} {scope : Pattern.Scope}
    (fuelSame : 3 * (op.wrapped operand).length + 3 = fuel + 3 + 4)
    (inner : Pattern.readAlternatives (fuel + 3) ⟨Pattern.Flags.initial, []⟩
      (op.bare operand ++ ')' :: op.closing) = some (regex, scope, ')' :: op.closing)) :
    Pattern.read (op.wrapped operand) = some (op.framed regex) := by
  rw [Pattern.read_eq_some_iff, fuelSame, wrapped]
  -- Behind the group there is the end of the text, or nothing more to match.
  cases op with
  | fullMatch => exact ⟨_, Pattern.readAlternatives_anchored inner rfl⟩
  | _ => exact ⟨_, Pattern.readAlternatives_anchored inner rfl⟩

end Engine

end Operator

end RecordFilter
