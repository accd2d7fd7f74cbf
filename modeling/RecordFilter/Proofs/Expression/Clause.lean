import Mathlib.Data.List.Forall2
import RecordFilter.Expression.Reader
import RecordFilter.Proofs.Expression.Literal

/-! How a clause is read where its key and its operator are known, and what its reading denotes. -/

namespace RecordFilter

namespace Expression

/-- A token that an expression can hold as an operator: a run of signs, or a run of letters. -/
def IsToken (token : List Char) : Prop :=
  token ≠ [] ∧
    ((∀ character ∈ token, isSign character = true) ∨ ∀ character ∈ token, character.isAlpha = true)

instance (token : List Char) : Decidable (IsToken token) :=
  decidable_of_iff
    (token.isEmpty = false ∧ (token.all isSign = true ∨ token.all Char.isAlpha = true))
    (by simp [IsToken])

/-- Whether a character could belong to an operator. -/
def continuesOperator (character : Char) : Bool :=
  isSign character || character.isAlpha

variable {text rest operator : List Char}

/-- No space goes on with an operator. -/
theorem visible_continuesOperator : Visible continuesOperator :=
  visible_of_excluded (by decide)

/-- A token is made of what continues it. -/
theorem IsToken.continues (token : IsToken operator) {character : Char}
    (inside : character ∈ operator) : continuesOperator character = true := by
  obtain ⟨_, signs | letters⟩ := token
  · simp [continuesOperator, signs character inside]
  · simp [continuesOperator, letters character inside]

/-- A token starts a text with a visible character. -/
theorem IsToken.visible (token : IsToken operator) : Leaves isSpace (operator ++ rest) := by
  cases operator with
  | nil => exact absurd rfl token.1
  | cons character more =>
    exact leaves_cons.mpr (visible_continuesOperator character (token.continues (by simp)))

/-- A letter is no sign. -/
theorem isSign_letter {character : Char} (letter : character.isAlpha = true) :
    isSign character = false := by
  simp only [isSign, List.contains_eq_mem, decide_eq_false_iff_not, List.mem_cons, List.not_mem_nil,
    or_false, not_or]
  refine ⟨?_, ?_, ?_, ?_, ?_⟩ <;> (rintro rfl; revert letter; decide)

/-- An operator is read up to what cannot belong to one. -/
theorem IsToken.readOperator_append (token : IsToken operator)
    (ends : Leaves continuesOperator rest) : readOperator (operator ++ rest) = some (operator, rest) := by
  -- What cannot go on with an operator is neither a sign nor a letter.
  have noSign : Leaves isSign rest := fun character first =>
    (Bool.or_eq_false_iff.mp (ends character first)).1
  have noLetter : Leaves Char.isAlpha rest := fun character first =>
    (Bool.or_eq_false_iff.mp (ends character first)).2
  obtain ⟨some_, signs | letters⟩ := token
  · rw [readOperator, span_append signs noSign]
    simp [some_]
  · -- The reader looks for signs first, and finds none in front of the letters.
    have first : Leaves isSign (operator ++ rest) := by
      cases operator with
      | nil => contradiction
      | cons character more => exact leaves_cons.mpr (isSign_letter (letters character (by simp)))
    rw [readOperator, span_of_leaves first, span_append letters noLetter]
    simp [some_]

/-- A key that needs no quotation marks is a run of word characters. -/
theorem needsQuotes_eq_false {key : List Char} (bare : needsQuotes key = false) :
    key ≠ [] ∧ ∀ character ∈ key, isWordCharacter character = true := by
  -- Bare keys are not empty, are no connectives, and hold only characters of words.
  simp only [needsQuotes, Bool.or_eq_false_iff, Bool.not_eq_false', List.all_eq_true,
    List.isEmpty_eq_false_iff] at bare
  exact ⟨bare.1.1, bare.2⟩

/-- A bare key is read up to the end of its word. -/
theorem readKey_bare {key : List Char} (bare : needsQuotes key = false)
    (ends : Leaves isWordCharacter rest) : readKey (key ++ rest) = some (.bare key, rest) := by
  obtain ⟨some_, word⟩ := needsQuotes_eq_false bare
  cases key with
  | nil => contradiction
  | cons character more =>
    -- The quotation mark, which would open the other kind of key, stands in no word.
    have unquoted : character ≠ '"' := by
      rintro rfl
      exact absurd (word '"' (by simp)) (by decide)
    -- The word of the key ends where a character follows that stands in none.
    have found := span_append word ends
    rw [List.cons_append] at found ⊢
    rw [readKey, found]
    · simp
    · intro _ same
      exact unquoted (List.cons.inj same).1

/-- A quoted key is read up to its closing mark. -/
theorem readKey_quoted {parts : List StringPart} {inner : List Char}
    (spelled : StringPart.AllSpelled parts inner) :
    readKey ('"' :: (inner ++ ['"']) ++ rest) = some (.quoted ('"' :: (inner ++ ['"'])), rest) := by
  have skipped : skipQuoted (inner ++ '"' :: rest) = some rest := skipQuoted_append spelled
  -- The key is taken off with its marks, by the length of what is left behind it.
  have behind : taken ('"' :: (inner ++ ['"']) ++ rest) rest = '"' :: (inner ++ ['"']) :=
    taken_append
  simp only [List.cons_append, List.append_assoc, List.nil_append] at behind
  simp [readKey, skipped, behind]

/-- A clause with the operand that was read, if one was, and what follows the clause. -/
def clauseWith (key : WrittenKey) (operator rest : List Char) :
    Option (List Char × List Char) → WrittenClause × List Char
  | some (operand, after) => (⟨key, operator, some operand⟩, after)
  | none => (⟨key, operator, none⟩, rest)

/-- Behind a key and an operator a clause has an operand, where a literal can be read. -/
theorem readClause_append {key : WrittenKey} {keyText : List Char}
    (named : readKey (keyText ++ ' ' :: (operator ++ rest)) = some (key, ' ' :: (operator ++ rest)))
    (token : IsToken operator) (ends : Leaves continuesOperator rest) :
    readClause (keyText ++ ' ' :: (operator ++ rest)) =
      some (clauseWith key operator rest (readLiteral (skipSpace rest))) := by
  -- The one space between the key and the operator is skipped, and none follows it.
  have space : skipSpace (' ' :: (operator ++ rest)) = operator ++ rest := by
    rw [skipSpace_blank, skipSpace_of_leaves token.visible]
  rw [readClause, named, Option.bind_some]
  simp only [space, token.readOperator_append ends, Option.map_some]
  cases readLiteral (skipSpace rest) <;> rfl

end Expression

/-- A list is taken through a step that may fail exactly when every element is. -/
theorem mapM_eq_ok_iff {α β ε : Type} {step : α → Except ε β} {items : List α} {results : List β} :
    items.mapM step = .ok results ↔
      List.Forall₂ (fun item result => step item = .ok result) items results := by
  induction items generalizing results with
  | nil => cases results <;> simp [Pure.pure, Except.pure]
  | cons item rest ih =>
    cases first : step item with
    | error cause => cases results <;> simp [first, Bind.bind, Except.bind]
    | ok result =>
      -- The first element succeeds, so the rest decides.
      cases others : rest.mapM step with
      | error cause =>
        -- A rest that fails has no results that could stand against it.
        have none_ : ∀ results, ¬ List.Forall₂ (fun item result => step item = .ok result)
            rest results := fun results all => by simp [ih.mpr all] at others
        cases results <;> simp [first, others, Bind.bind, Except.bind, none_]
      | ok more =>
        cases results with
        | nil => simp [first, others, Bind.bind, Except.bind, Pure.pure, Except.pure]
        | cons given results =>
          simp [first, others, Bind.bind, Except.bind, Pure.pure, Except.pure, ← ih]

namespace WrittenClause

/-- The clauses of a group are decoded in turn, up to the first that fails. -/
theorem decodeGroup_eq_mapM (clauses : List WrittenClause) :
    decodeGroup clauses = clauses.mapM decode := by
  induction clauses with
  | nil => rfl
  | cons clause rest ih => simp only [decodeGroup, ih, List.mapM_cons]

/-- Groups are decoded in turn, up to the first that fails. -/
theorem decodeGroups_eq_mapM (groups : List (List WrittenClause)) :
    decodeGroups groups = groups.mapM decodeGroup := by
  induction groups with
  | nil => rfl
  | cons group rest ih => simp only [decodeGroups, ih, List.mapM_cons]

/-- Groups of clauses denote groups of conditions place by place. -/
def Denote (groups : List (List WrittenClause)) (conditions : List ConditionGroup) : Prop :=
  List.Forall₂ (List.Forall₂ fun clause condition => clause.decode = .ok condition) groups conditions

/-- Groups are decoded exactly when they denote the conditions that result. -/
theorem decodeGroups_eq_ok_iff {groups : List (List WrittenClause)}
    {conditions : List ConditionGroup} :
    decodeGroups groups = .ok conditions ↔ Denote groups conditions := by
  simp only [decodeGroups_eq_mapM, mapM_eq_ok_iff, decodeGroup_eq_mapM, Denote]

/-- A single condition is denoted by a single clause. -/
theorem denote_single_iff {groups : List (List WrittenClause)} {condition : Condition} :
    Denote groups [[condition]] ↔ ∃ clause, groups = [[clause]] ∧ clause.decode = .ok condition := by
  constructor
  · intro denote
    -- One group stands against one group, and in it one clause against one condition.
    obtain ⟨group, more, groupDenotes, moreDenote, rfl⟩ := List.forall₂_cons_right_iff.mp denote
    obtain ⟨clause, others, decoded, othersDecoded, rfl⟩ :=
      List.forall₂_cons_right_iff.mp groupDenotes
    obtain rfl := List.forall₂_nil_right_iff.mp moreDenote
    obtain rfl := List.forall₂_nil_right_iff.mp othersDecoded
    exact ⟨clause, rfl, decoded⟩
  · rintro ⟨clause, rfl, decoded⟩
    exact .cons (.cons decoded .nil) .nil

/-- An operand is decoded exactly where its text is a document. -/
theorem decodeOperand_eq_ok_iff {text : List Char} {operand : Json} :
    decodeOperand (some text) = .ok operand ↔ Json.read text = some operand := by
  rw [decodeOperand]
  -- A text that is no document is reported as a bad literal.
  cases Json.read text <;> simp

/-- A clause denotes a condition part by part. -/
theorem decode_eq_ok_iff {clause : WrittenClause} {condition : Condition} :
    clause.decode = .ok condition ↔
      clause.key.decode = .ok condition.key ∧ String.ofList clause.operator = condition.operator ∧
        decodeOperand clause.operand = .ok condition.operand := by
  obtain ⟨key, operator, operand⟩ := condition
  rw [decode]
  -- The key is decoded before the operand, and either may fail.
  cases clause.key.decode with
  | error cause => simp [Bind.bind, Except.bind]
  | ok name =>
    cases decodeOperand clause.operand with
    | error cause => simp [Bind.bind, Except.bind]
    | ok value => simp [Bind.bind, Except.bind, Pure.pure, Except.pure]

end WrittenClause

namespace ConditionSet

/-- A text is an expression of a set exactly when it is groups of clauses that denote the set. -/
theorem parse_eq_ok_iff {text : List Char} {set : ConditionSet} :
    parse text = .ok set ↔
      ∃ groups, Expression.readGroups text = some groups ∧
        WrittenClause.Denote groups set.groups := by
  unfold parse
  cases Expression.readGroups text with
  | none => simp
  | some groups =>
    -- A text is cut into groups in one way only.
    simp only [Option.some.injEq, exists_eq_left', ← WrittenClause.decodeGroups_eq_ok_iff]
    cases WrittenClause.decodeGroups groups with
    | error cause => simp [Except.map]
    | ok conditions =>
      obtain ⟨given⟩ := set
      simp [Except.map]

end ConditionSet

end RecordFilter
