import RecordFilter.Proofs.Expression.Clause

/-! What is read at the start of a text is read there still, when something
follows that is no part of it. -/

namespace RecordFilter

/-- Whether a character could belong to the last part of a clause, behind which it stands. -/
def continuesClause (character : Char) : Bool :=
  continuesLiteral character || Expression.isSign character || character == '+'

namespace Expression

variable {text rest tail : List Char}

/-- What follows a clause follows its last word. -/
theorem leaves_word (ends : Leaves continuesClause tail) : Leaves isWordCharacter tail :=
  leaves_of_imp ends fun character inside => by simp [continuesClause, continuesLiteral, inside]

/-- What follows a clause follows its last digit. -/
theorem leaves_digit (ends : Leaves continuesClause tail) : Leaves Char.isDigit tail :=
  leaves_of_imp ends fun character inside => by
    simp [continuesClause, continuesLiteral, isWordCharacter, Char.isAlphanum, inside]

/-- A word ends where no character of a word follows. -/
theorem continuesWord_eq_false_iff : continuesWord text = false ↔ Leaves isWordCharacter text := by
  cases text with
  | nil => simp [continuesWord, leaves_nil]
  | cons character more => simp [continuesWord]

/-- A quoted text is closed where it was. -/
theorem skipQuoted_extend (skipped : skipQuoted text = some rest) :
    skipQuoted (text ++ tail) = some (rest ++ tail) := by
  -- The cases are the arms of the definition.
  induction text using skipQuoted.induct with
  | case1 => simp [skipQuoted] at skipped
  | case2 behind =>
    obtain rfl := Option.some.inj skipped
    simp [skipQuoted]
  | case3 protected_ behind ih =>
    simp only [skipQuoted] at skipped
    simp [skipQuoted, ih skipped]
  | case4 character behind unquoted noEscape lone =>
    -- A backslash that protects nothing ends the text unclosed.
    rw [skipQuoted.eq_4 _ _ unquoted noEscape, if_pos lone] at skipped
    contradiction
  | case5 character behind unquoted noEscape plain ih =>
    rw [skipQuoted.eq_4 _ _ unquoted noEscape, if_neg plain] at skipped
    -- The character is no backslash, so it protects nothing of what follows either.
    have noBackslash : character ≠ '\\' := by simpa using plain
    rw [List.cons_append, skipQuoted.eq_4 _ _ unquoted (fun _ _ same => absurd same noBackslash),
      if_neg plain, ih skipped]

/-- A word is skipped as it was, since what follows does not go on with it. -/
theorem skipWord_extend {word : List Char} (skipped : skipWord word text = some rest)
    (ends : Leaves isWordCharacter tail) : skipWord word (text ++ tail) = some (rest ++ tail) := by
  unfold skipWord at skipped
  split at skipped
  · rename_i found
    obtain ⟨isPrefix, stops⟩ := Bool.and_eq_true_iff.mp found
    obtain ⟨behind, rfl⟩ := List.isPrefixOf_iff_prefix.mp isPrefix
    simp only [List.drop_left, Bool.not_eq_true', continuesWord_eq_false_iff] at stops
    obtain rfl : behind = rest := by simpa using skipped
    -- Neither what was behind the word nor what follows it now makes the word longer.
    have stopsStill := continuesWord_eq_false_iff.mpr (leaves_append stops ends)
    have found : word.isPrefixOf (word ++ (behind ++ tail)) = true :=
      List.isPrefixOf_iff_prefix.mpr ⟨behind ++ tail, rfl⟩
    simp [skipWord, found, stopsStill]
  · contradiction

/-- A fraction ends where it did, and none is begun by what follows. -/
theorem skipFraction_extend (ends : Leaves continuesClause tail) :
    skipFraction (text ++ tail) = skipFraction text ++ tail := by
  -- A point does not go on with a clause.
  have noPoint : skipFraction tail = tail := by
    cases tail with
    | nil => rfl
    | cons character more =>
      have differs : character ≠ '.' := by
        rintro rfl
        exact absurd (leaves_cons.mp ends) (by decide)
      simp [skipFraction, differs]
  cases text with
  | nil => exact noPoint
  | cons character behind =>
    -- Behind a point the digits end where they did, and then the text is cut there or kept whole.
    by_cases point : character = '.'
    · subst point
      cases found : spanDigits behind with
      | mk digits after =>
        have extended : spanDigits (behind ++ tail) = (digits, after ++ tail) :=
          span_extend found (leaves_digit ends)
        simp only [List.cons_append, skipFraction, found, extended]
        split <;> simp
    · simp [skipFraction, point]

/-- An exponent ends where it did, and none is begun by what follows. -/
theorem skipExponent_extend (ends : Leaves continuesClause tail) :
    skipExponent (text ++ tail) = skipExponent text ++ tail := by
  have noDigit : spanDigits tail = ([], tail) := span_of_leaves (leaves_digit ends)
  -- Neither a marker nor a sign goes on with a clause.
  have stops : ∀ character ∈ tail.head?, (character == 'e' || character == 'E') = false ∧
      character ≠ '+' ∧ character ≠ '-' := by
    intro character first
    have outside := ends character first
    refine ⟨?_, ?_, ?_⟩
    · cases marked : character == 'e' || character == 'E' with
      | false => rfl
      | true =>
        obtain rfl | rfl : character = 'e' ∨ character = 'E' := by simpa using marked
        · exact absurd outside (by decide)
        · exact absurd outside (by decide)
    · rintro rfl
      exact absurd outside (by decide)
    · rintro rfl
      exact absurd outside (by decide)
  cases text with
  | nil =>
    cases tail with
    | nil => rfl
    | cons character more => simp [skipExponent, stops character rfl]
  | cons marker behind =>
    -- Whatever the sign, the digits behind it end where they did.
    have inside : ∀ unsigned : List Char,
        (if (marker == 'e' || marker == 'E') && !(spanDigits (unsigned ++ tail)).1.isEmpty then
          (spanDigits (unsigned ++ tail)).2 else marker :: behind ++ tail) =
        (if (marker == 'e' || marker == 'E') && !(spanDigits unsigned).1.isEmpty then
          (spanDigits unsigned).2 else marker :: behind) ++ tail := by
      intro unsigned
      cases found : spanDigits unsigned with
      | mk digits after =>
        have extended : spanDigits (unsigned ++ tail) = (digits, after ++ tail) :=
          span_extend found (leaves_digit ends)
        rw [extended]
        split <;> simp
    cases behind with
    | nil =>
      -- What follows begins with no sign, so the digits would begin there, and none do.
      cases tail with
      | nil => simp
      | cons character more =>
        obtain ⟨_, noPlus, noMinus⟩ := stops character rfl
        simpa [skipExponent, noPlus, noMinus] using inside []
    | cons sign more =>
      by_cases plus : sign = '+'
      · subst plus
        simpa [skipExponent] using inside more
      · by_cases minus : sign = '-'
        · subst minus
          simpa [skipExponent] using inside more
        · simpa [skipExponent, plus, minus] using inside (sign :: more)

/-- A number begins with a minus sign or a digit. -/
theorem skipNumber_opens (skipped : skipNumber text = some rest) :
    ∃ first more, text = first :: more ∧ (first = '-' ∨ first.isDigit = true) := by
  cases text with
  | nil => simp [skipNumber, spanDigits] at skipped
  | cons first more =>
    refine ⟨first, more, rfl, ?_⟩
    by_cases minus : first = '-'
    · exact .inl minus
    · cases digit : first.isDigit with
      | true => exact .inr rfl
      | false =>
        -- Without a digit in front there are no digits at all.
        have none_ : spanDigits (first :: more) = ([], first :: more) :=
          span_of_leaves (leaves_cons.mpr digit)
        simp [skipNumber, minus, none_] at skipped

/-- A number is skipped as it was. -/
theorem skipNumber_extend (skipped : skipNumber text = some rest)
    (ends : Leaves continuesClause tail) : skipNumber (text ++ tail) = some (rest ++ tail) := by
  -- With or without a minus sign, the digits and all that may follow them end where they did.
  have inside : ∀ unsigned : List Char,
      (if (spanDigits unsigned).1.isEmpty ||
          continuesWord (skipExponent (skipFraction (spanDigits unsigned).2)) then none
        else some (skipExponent (skipFraction (spanDigits unsigned).2))) = some rest →
      (if (spanDigits (unsigned ++ tail)).1.isEmpty ||
          continuesWord (skipExponent (skipFraction (spanDigits (unsigned ++ tail)).2)) then none
        else some (skipExponent (skipFraction (spanDigits (unsigned ++ tail)).2))) =
          some (rest ++ tail) := by
    intro unsigned skipped
    cases found : spanDigits unsigned with
    | mk digits after =>
      have extended : spanDigits (unsigned ++ tail) = (digits, after ++ tail) :=
        span_extend found (leaves_digit ends)
      rw [found] at skipped
      rw [extended]
      simp only [skipFraction_extend ends, skipExponent_extend ends]
      split at skipped
      · contradiction
      · rename_i whole
        obtain rfl := Option.some.inj skipped
        simp only [Bool.or_eq_true, not_or, Bool.not_eq_true, continuesWord_eq_false_iff] at whole
        -- The word that was not there behind the number is not there now.
        have stops := continuesWord_eq_false_iff.mpr (leaves_append whole.2 (leaves_word ends))
        simp [whole.1, stops]
  obtain ⟨first, more, rfl, _⟩ := skipNumber_opens skipped
  by_cases minus : first = '-'
  · subst minus
    exact inside more skipped
  · have unsigned : ∀ behind, skipNumber (first :: behind) =
        if (spanDigits (first :: behind)).1.isEmpty ||
            continuesWord (skipExponent (skipFraction (spanDigits (first :: behind)).2)) then none
          else some (skipExponent (skipFraction (spanDigits (first :: behind)).2)) := by
      intro behind
      simp [skipNumber, minus]
    rw [unsigned] at skipped
    rw [List.cons_append, unsigned]
    exact inside (first :: more) skipped

/-- No literal is empty. -/
theorem skipLiteral_nil (fuel : Nat) : skipLiteral fuel [] = none := by
  cases fuel <;> rfl

/-- The empty text holds no items, not even their closing bracket. -/
theorem skipItems_nil (fuel : Nat) : skipItems fuel [] = none := by
  cases fuel with
  | zero => rfl
  | succ fuel => simp [skipItems, skipLiteral_nil]

/-- The empty text holds no members either. -/
theorem skipMembers_nil (fuel : Nat) : skipMembers fuel [] = none := by
  cases fuel with
  | zero => rfl
  | succ fuel => cases fuel <;> rfl

/-- Where something is read that the empty text does not hold, there is a text. -/
theorem ne_nil_of_read {α : Type} {read : List Char → Option α} {found : α}
    (something : read text = some found) (none_ : read [] = none) : text ≠ [] := by
  rintro rfl
  rw [none_] at something
  contradiction

/-- What closes a container at once closes it, and anything else does not, whatever follows. -/
theorem ne_extend {close : Char} (some_ : skipSpace text ≠ [])
    (inhabited : ∀ after, skipSpace text ≠ close :: after) (after : List Char) :
    skipSpace (text ++ tail) ≠ close :: after := by
  rw [skipSpace_extend some_]
  -- Only the first character matters, and that is the same.
  cases visible : skipSpace text with
  | nil => exact absurd visible some_
  | cons first behind =>
    intro same
    rw [List.cons_append] at same
    exact inhabited behind ((List.cons.inj same).1 ▸ visible)

-- More calls than were needed do not change what is skipped, so they may grow with the text.

mutual

/-- A literal is skipped as it was, also with more calls to spend. -/
theorem skipLiteral_extend {fuel more : Nat} {text rest tail : List Char}
    (skipped : skipLiteral fuel text = some rest) (enough : fuel ≤ more)
    (ends : Leaves continuesClause tail) :
    skipLiteral more (text ++ tail) = some (rest ++ tail) := by
  cases fuel with
  | zero => simp [skipLiteral] at skipped
  | succ fuel =>
    -- One call more than before is left at least, so the same arm is reached.
    obtain ⟨calls, rfl⟩ := Nat.exists_eq_add_of_lt enough
    have enough : fuel ≤ fuel + calls := Nat.le_add_right _ _
    unfold skipLiteral at skipped
    -- One case for each arm: a string, three words, two containers, a number.
    split at skipped
    · exact skipQuoted_extend skipped
    · exact skipWord_extend skipped (leaves_word ends)
    · exact skipWord_extend skipped (leaves_word ends)
    · exact skipWord_extend skipped (leaves_word ends)
    · rename_i behind
      split at skipped
      case h_1 closed =>
        obtain rfl := Option.some.inj skipped
        have space : skipSpace (behind ++ tail) = skipSpace behind ++ tail :=
          skipSpace_extend (by simp [closed])
        simp [skipLiteral, space, closed]
      case h_2 inhabited =>
        have some_ := ne_nil_of_read skipped (skipItems_nil fuel)
        rw [List.cons_append, skipLiteral_array (ne_extend some_ inhabited), skipSpace_extend some_]
        exact skipItems_extend skipped enough ends
    · rename_i behind
      split at skipped
      case h_1 closed =>
        obtain rfl := Option.some.inj skipped
        have space : skipSpace (behind ++ tail) = skipSpace behind ++ tail :=
          skipSpace_extend (by simp [closed])
        simp [skipLiteral, space, closed]
      case h_2 inhabited =>
        have some_ := ne_nil_of_read skipped (skipMembers_nil fuel)
        rw [List.cons_append, skipLiteral_object (ne_extend some_ inhabited), skipSpace_extend some_]
        exact skipMembers_extend skipped enough ends
    · obtain ⟨first, behind, rfl, opens⟩ := skipNumber_opens skipped
      have extended := skipNumber_extend skipped ends
      rw [List.cons_append] at extended ⊢
      rw [skipLiteral_number opens, extended]

/-- Items are skipped as they were, with their closing bracket. -/
theorem skipItems_extend {fuel more : Nat} {text rest tail : List Char}
    (skipped : skipItems fuel text = some rest) (enough : fuel ≤ more)
    (ends : Leaves continuesClause tail) : skipItems more (text ++ tail) = some (rest ++ tail) := by
  cases fuel with
  | zero => simp [skipItems] at skipped
  | succ fuel =>
    obtain ⟨calls, rfl⟩ := Nat.exists_eq_add_of_lt enough
    have enough : fuel ≤ fuel + calls := Nat.le_add_right _ _
    rw [skipItems] at skipped ⊢
    obtain ⟨afterItem, itemSkipped, skipped⟩ := Option.bind_eq_some_iff.mp skipped
    rw [skipLiteral_extend itemSkipped enough ends, Option.bind_some]
    -- A comma or the bracket stands behind the item, so the space in front of it is the same.
    split at skipped
    case h_1 comma =>
      have some_ := ne_nil_of_read skipped (skipItems_nil fuel)
      rw [skipSpace_extend (by simp [comma]), comma, List.cons_append]
      simp only [skipSpace_extend some_]
      exact skipItems_extend skipped enough ends
    case h_2 closed =>
      obtain rfl := Option.some.inj skipped
      rw [skipSpace_extend (by simp [closed]), closed]
      rfl
    case h_3 => contradiction

/-- Members are skipped as they were, with their closing brace. -/
theorem skipMembers_extend {fuel more : Nat} {text rest tail : List Char}
    (skipped : skipMembers fuel text = some rest) (enough : fuel ≤ more)
    (ends : Leaves continuesClause tail) :
    skipMembers more (text ++ tail) = some (rest ++ tail) := by
  cases fuel with
  | zero => simp [skipMembers] at skipped
  | succ fuel =>
    obtain ⟨calls, rfl⟩ := Nat.exists_eq_add_of_lt enough
    have enough : fuel ≤ fuel + calls := Nat.le_add_right _ _
    rw [skipMembers] at skipped ⊢
    obtain ⟨afterMember, memberSkipped, skipped⟩ := Option.bind_eq_some_iff.mp skipped
    rw [skipMember_extend memberSkipped enough ends, Option.bind_some]
    -- A comma or the brace stands behind the member, so the space in front of it is the same.
    split at skipped
    case h_1 comma =>
      have some_ := ne_nil_of_read skipped (skipMembers_nil fuel)
      rw [skipSpace_extend (by simp [comma]), comma, List.cons_append]
      simp only [skipSpace_extend some_]
      exact skipMembers_extend skipped enough ends
    case h_2 closed =>
      obtain rfl := Option.some.inj skipped
      rw [skipSpace_extend (by simp [closed]), closed]
      rfl
    case h_3 => contradiction

/-- A member is skipped as it was. -/
theorem skipMember_extend {fuel more : Nat} {text rest tail : List Char}
    (skipped : skipMember fuel text = some rest) (enough : fuel ≤ more)
    (ends : Leaves continuesClause tail) :
    skipMember more (text ++ tail) = some (rest ++ tail) := by
  cases fuel with
  | zero => simp [skipMember] at skipped
  | succ fuel =>
    obtain ⟨calls, rfl⟩ := Nat.exists_eq_add_of_lt enough
    have enough : fuel ≤ fuel + calls := Nat.le_add_right _ _
    unfold skipMember at skipped
    split at skipped
    · obtain ⟨afterKey, keySkipped, skipped⟩ := Option.bind_eq_some_iff.mp skipped
      split at skipped
      case h_1 colon =>
        have some_ := ne_nil_of_read skipped (skipLiteral_nil fuel)
        rw [List.cons_append, skipMember, skipQuoted_extend keySkipped, Option.bind_some,
          skipSpace_extend (by simp [colon]), colon, List.cons_append]
        simp only [skipSpace_extend some_]
        exact skipLiteral_extend skipped enough ends
      case h_2 => contradiction
    · contradiction

end

/-- A literal is read as it was, with what follows it behind what followed it. -/
theorem readLiteral_extend {literal : List Char} (found : readLiteral text = some (literal, rest))
    (ends : Leaves continuesClause tail) :
    readLiteral (text ++ tail) = some (literal, rest ++ tail) := by
  have parts := readLiteral_parts found
  obtain ⟨after, skipped, same⟩ := Option.map_eq_some_iff.mp found
  obtain ⟨_, rfl⟩ := Prod.mk.inj same
  have enough : 3 * text.length + 3 ≤ 3 * (text ++ tail).length + 3 := by
    simp only [List.length_append]
    omega
  -- What was taken is what stands in front of the rest, and still does.
  rw [readLiteral, skipLiteral_extend skipped enough ends, Option.map_some]
  conv_lhs => rw [parts, List.append_assoc, taken_append]

/-- A key is read as it was, with or without quotation marks. -/
theorem readKey_extend {key : WrittenKey} (found : readKey text = some (key, rest))
    (ends : Leaves continuesClause tail) : readKey (text ++ tail) = some (key, rest ++ tail) := by
  unfold readKey at found
  split at found
  · -- A quoted key is taken off by its length, which is the same.
    obtain ⟨after, skipped, same⟩ := Option.map_eq_some_iff.mp found
    obtain ⟨rfl, rfl⟩ := Prod.mk.inj same
    rename_i behind
    obtain ⟨front, parts⟩ := (skipQuoted_suffix skipped).trans (List.suffix_cons '"' behind)
    have taken_ : taken ('"' :: behind ++ tail) (after ++ tail) = taken ('"' :: behind) after := by
      rw [← parts, List.append_assoc, taken_append, taken_append]
    simp only [List.cons_append] at taken_ ⊢
    rw [readKey, skipQuoted_extend skipped, Option.map_some, taken_]
  · rename_i unquoted
    cases word : text.span isWordCharacter with
    | mk name after =>
      rw [word] at found
      have extended := span_extend word (leaves_word ends)
      simp only at found
      split at found
      · contradiction
      · rename_i some_
        obtain ⟨rfl, rfl⟩ := Prod.mk.inj (Option.some.inj found)
        cases text with
        | nil =>
          obtain ⟨rfl, _⟩ := Prod.mk.inj (show ([], []) = (name, after) from word)
          exact absurd rfl some_
        | cons first more =>
          -- The key starts as it did, and so not with a quotation mark.
          have differs : first ≠ '"' := fun same => unquoted more (by rw [same])
          rw [List.cons_append] at extended ⊢
          rw [readKey, extended]
          · simp only [some_, Bool.false_eq_true, if_false]
          · intro behind same
            exact differs (List.cons.inj same).1

/-- A clause is followed by nothing that could be its operator. -/
theorem leaves_operator (ends : Leaves continuesClause tail) :
    Leaves isSign tail ∧ Leaves Char.isAlpha tail :=
  ⟨leaves_of_imp ends fun character inside => by simp [continuesClause, inside],
    leaves_of_imp ends fun character inside => by
      simp [continuesClause, continuesLiteral, isWordCharacter, Char.isAlphanum, inside]⟩

/-- An operator is read as it was. -/
theorem readOperator_extend {operator : List Char}
    (found : readOperator text = some (operator, rest)) (ends : Leaves continuesClause tail) :
    readOperator (text ++ tail) = some (operator, rest ++ tail) := by
  obtain ⟨noSign, noLetter⟩ := leaves_operator ends
  -- Both runs are tried in the same order, and each ends where it did.
  cases signs : text.span isSign with
  | mk sign afterSigns =>
    cases letters : text.span Char.isAlpha with
    | mk letter afterLetters =>
      simp only [readOperator, signs, letters] at found
      simp only [readOperator, span_extend signs noSign, span_extend letters noLetter]
      split at found
      · rename_i none_
        rw [if_pos none_]
        split at found
        · contradiction
        · rename_i some_
          obtain ⟨rfl, rfl⟩ := Prod.mk.inj (Option.some.inj found)
          rw [if_neg some_]
      · rename_i some_
        obtain ⟨rfl, rfl⟩ := Prod.mk.inj (Option.some.inj found)
        rw [if_neg some_]

/-- Whether a connective can begin with a character. -/
def opensConnective (character : Char) : Bool :=
  character == '&' || character == '|' || character.toLower == 'a' || character.toLower == 'o'

/-- A word that is found in any case begins with its first letter, small or large. -/
theorem opensConnective_of_any {word : List Char} {first : Char}
    (skipped : skipWordAnyCase (first :: word) text = some rest) :
    ∃ letter more, text = letter :: more ∧ letter.toLower = first := by
  simp only [skipWordAnyCase] at skipped
  split at skipped
  · rename_i found
    -- The word is as long as what was compared with it, so there was something to compare.
    cases text with
    | nil => simp at found
    | cons letter more =>
      simp only [List.length_cons, List.take_succ_cons, List.map_cons, Bool.and_eq_true, beq_iff_eq,
        List.cons.injEq] at found
      exact ⟨letter, more, rfl, found.1.1⟩
  · contradiction

/-- A connective begins with a sign or a letter of its own. -/
theorem readConnective_opens {connective : Connective}
    (found : readConnective text = some (connective, rest)) :
    ∃ first more, text = first :: more ∧ opensConnective first = true := by
  unfold readConnective at found
  -- A sign opens a connective, and otherwise the first letter of one of the words does.
  split at found
  · exact ⟨_, _, rfl, rfl⟩
  · exact ⟨_, _, rfl, rfl⟩
  · split at found
    · rename_i skipped
      obtain ⟨letter, more, rfl, small⟩ := opensConnective_of_any skipped
      exact ⟨letter, more, rfl, by simp [opensConnective, small]⟩
    · obtain ⟨_, skipped, _⟩ := Option.map_eq_some_iff.mp found
      obtain ⟨letter, more, rfl, small⟩ := opensConnective_of_any skipped
      exact ⟨letter, more, rfl, by simp [opensConnective, small]⟩

/-- No literal begins like a connective. -/
theorem skipLiteral_of_opens {fuel : Nat} {first : Char} {more : List Char}
    (opens : opensConnective first = true) : skipLiteral fuel (first :: more) = none := by
  cases skipped : skipLiteral fuel (first :: more) with
  | none => rfl
  | some rest =>
    cases fuel with
    | zero => simp [skipLiteral] at skipped
    | succ fuel =>
      unfold skipLiteral at skipped
      -- Each arm asks for a first character that opens no connective.
      split at skipped
      case h_7 =>
        obtain ⟨character, behind, same, number⟩ := skipNumber_opens skipped
        obtain ⟨rfl, rfl⟩ := List.cons.inj same
        obtain rfl | digit := number
        · exact absurd opens (by decide)
        · simp only [opensConnective, toLower_digit digit, Bool.or_eq_true, beq_iff_eq] at opens
          rcases opens with ((rfl | rfl) | rfl) | rfl <;> exact absurd digit (by decide)
      all_goals
        rename_i same
        obtain ⟨rfl, _⟩ := List.cons.inj same
        exact absurd opens (by decide)

/-- A connective is read as it was. -/
theorem skipWordAnyCase_extend {word : List Char} (skipped : skipWordAnyCase word text = some rest)
    (ends : Leaves isWordCharacter tail) :
    skipWordAnyCase word (text ++ tail) = some (rest ++ tail) := by
  simp only [skipWordAnyCase] at skipped
  split at skipped
  · rename_i found
    obtain rfl := Option.some.inj skipped
    obtain ⟨same, stops⟩ := Bool.and_eq_true_iff.mp found
    -- The text has as many characters as the word that it begins with.
    have long : word.length ≤ text.length := by
      have lengths := congrArg List.length (beq_iff_eq.mp same)
      simp only [List.length_map, List.length_take] at lengths
      omega
    have stopsStill := continuesWord_eq_false_iff.mpr
      (leaves_append (continuesWord_eq_false_iff.mp (by simpa using stops)) ends)
    simp only [skipWordAnyCase, List.take_append_of_le_length long,
      List.drop_append_of_le_length long, same, stopsStill, Bool.not_false, Bool.and_self, if_true]
  · contradiction

/-- Without a sign in front only a word can be a connective. -/
theorem readConnective_word {first : Char} {more : List Char} (noAnd : first ≠ '&')
    (noOr : first ≠ '|') :
    readConnective (first :: more) =
      match skipWordAnyCase ['a', 'n', 'd'] (first :: more) with
      | some rest => some (.conjunction, rest)
      | none => (skipWordAnyCase ['o', 'r'] (first :: more)).map fun rest => (.disjunction, rest) := by
  have noAmpersands : ∀ rest, first :: more ≠ '&' :: '&' :: rest := fun _ same =>
    noAnd (List.cons.inj same).1
  have noBars : ∀ rest, first :: more ≠ '|' :: '|' :: rest := fun _ same =>
    noOr (List.cons.inj same).1
  exact readConnective.eq_3 _ noAmpersands noBars

/-- A connective is read as it was. -/
theorem readConnective_extend {connective : Connective}
    (found : readConnective text = some (connective, rest)) (ends : Leaves continuesClause tail) :
    readConnective (text ++ tail) = some (connective, rest ++ tail) := by
  unfold readConnective at found
  split at found
  · obtain ⟨rfl, rfl⟩ := Prod.mk.inj (Option.some.inj found)
    rfl
  · obtain ⟨rfl, rfl⟩ := Prod.mk.inj (Option.some.inj found)
    rfl
  · split at found
    · rename_i skipped
      obtain ⟨rfl, rfl⟩ := Prod.mk.inj (Option.some.inj found)
      have extended := skipWordAnyCase_extend skipped (leaves_word ends)
      obtain ⟨letter, more, rfl, small⟩ := opensConnective_of_any skipped
      -- A letter is no sign, so the word is tried as it was.
      rw [List.cons_append] at extended ⊢
      rw [readConnective_word (by rintro rfl; simp at small) (by rintro rfl; simp at small), extended]
    · obtain ⟨after, skipped, same⟩ := Option.map_eq_some_iff.mp found
      obtain ⟨rfl, rfl⟩ := Prod.mk.inj same
      have extended := skipWordAnyCase_extend skipped (leaves_word ends)
      obtain ⟨letter, more, rfl, small⟩ := opensConnective_of_any skipped
      rw [List.cons_append] at extended ⊢
      rw [readConnective_word (by rintro rfl; simp at small) (by rintro rfl; simp at small), extended]
      -- The two words begin with different letters, so the first one is not found now either.
      cases other : skipWordAnyCase ['a', 'n', 'd'] (letter :: (more ++ tail)) with
      | none => rfl
      | some _ =>
        obtain ⟨_, _, same, otherSmall⟩ := opensConnective_of_any other
        rw [← (List.cons.inj same).1, small] at otherSmall
        exact absurd otherSmall (by decide)

/-- What follows a clause of an expression: nothing but space, or a connective behind space. -/
def Resumes (text : List Char) : Prop :=
  OnlySpace text ∨ ∃ connective rest, readConnective (skipSpace text) = some (connective, rest)

/-- What may be joined to a text: it is no part of a clause, and resumes an expression. -/
structure Seam (tail : List Char) : Prop where
  /-- Nothing at the start goes on with a clause. -/
  ends : Leaves continuesClause tail
  /-- A connective stands there. -/
  joins : ∃ connective rest, readConnective (skipSpace tail) = some (connective, rest)

/-- Where an expression is resumed there is no operand, also if it
is only resumed by what follows. -/
theorem Resumes.readLiteral (resumes : Resumes text) (seam : Seam tail) :
    readLiteral (skipSpace (text ++ tail)) = none := by
  -- Behind the space a connective is the first thing on either way.
  have opens : ∃ first more, skipSpace (text ++ tail) = first :: more ∧
      opensConnective first = true := by
    obtain blank | ⟨connective, rest, found⟩ := resumes
    · obtain ⟨connective, rest, found⟩ := seam.joins
      rw [skipSpace_append blank]
      exact readConnective_opens found
    · obtain ⟨first, more, same, opens⟩ := readConnective_opens found
      rw [skipSpace_extend (by simp [same]), same]
      exact ⟨first, more ++ tail, rfl, opens⟩
  obtain ⟨first, more, same, opens⟩ := opens
  rw [same, Expression.readLiteral, skipLiteral_of_opens opens, Option.map_none]

/-- A clause is read as it was, with or without an operand. -/
theorem readClause_extend {clause : WrittenClause} (found : readClause text = some (clause, rest))
    (resumes : Resumes rest) (seam : Seam tail) :
    readClause (text ++ tail) = some (clause, rest ++ tail) := by
  obtain ⟨⟨key, afterKey⟩, keyFound, found⟩ := Option.bind_eq_some_iff.mp found
  obtain ⟨⟨operator, afterOperator⟩, operatorFound, found⟩ := Option.map_eq_some_iff.mp found
  -- There is an operator behind the space, so the space ends there still.
  have some_ := ne_nil_of_read operatorFound rfl
  rw [readClause, readKey_extend keyFound seam.ends, Option.bind_some]
  simp only [skipSpace_extend some_, readOperator_extend operatorFound seam.ends, Option.map_some]
  simp only at found
  -- An operand is read as it was, and where none was found none is found now.
  cases literal : readLiteral (skipSpace afterOperator) with
  | none =>
    rw [literal] at found
    obtain ⟨rfl, rfl⟩ := Prod.mk.inj found
    rw [resumes.readLiteral seam]
  | some literalFound =>
    obtain ⟨operand, after⟩ := literalFound
    rw [literal] at found
    obtain ⟨rfl, rfl⟩ := Prod.mk.inj found
    have someLiteral := ne_nil_of_read literal rfl
    rw [skipSpace_extend someLiteral, readLiteral_extend literal seam.ends]

end Expression

end RecordFilter
