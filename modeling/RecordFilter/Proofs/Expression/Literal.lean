import RecordFilter.Expression.Clause
import RecordFilter.Expression.Printer
import RecordFilter.Proofs.Json.Reading

/-! Every document stands in an expression as a literal, where the
text behind it is no part of it. -/

namespace RecordFilter

/-- Whether a character behind a literal could belong to it. -/
def continuesLiteral (character : Char) : Bool :=
  isWordCharacter character || character == '.'

/-- No space goes on with a literal. -/
theorem visible_continuesLiteral : Visible continuesLiteral :=
  visible_of_excluded (by decide)

namespace Expression

variable {text rest : List Char}

/-- What ends a literal of an expression ends a number of a document. -/
theorem leaves_number (ends : Leaves continuesLiteral rest) : Leaves continuesNumber rest := by
  intro character first
  have stops := ends character first
  simp only [continuesLiteral, Bool.or_eq_false_iff, isWordCharacter, Char.isAlphanum] at stops
  -- A word is made of letters, digits and four other characters, and the point is no part of one.
  obtain ⟨⟨⟨⟨⟨⟨noLetter, noDigit⟩, _⟩, _⟩, _⟩, _⟩, noPoint⟩ := stops
  simp only [continuesNumber, Bool.or_eq_false_iff, beq_eq_false_iff_ne]
  -- The markers of an exponent are letters, and so belong to words.
  refine ⟨⟨⟨noDigit, by simpa using noPoint⟩, ?_⟩, ?_⟩ <;>
  · rintro rfl
    exact absurd noLetter (by decide)

/-- What ends a literal of an expression ends a word. -/
theorem continuesWord_eq_false (ends : Leaves continuesLiteral rest) :
    continuesWord rest = false := by
  cases rest with
  | nil => rfl
  | cons character more =>
    -- Every character of a word could go on with a literal, so none stands here.
    have stops := leaves_cons.mp ends
    simp only [continuesLiteral, Bool.or_eq_false_iff] at stops
    exact stops.1

/-- A word is skipped where no word goes on. -/
theorem skipWord_append {word : List Char} (ends : Leaves continuesLiteral rest) :
    skipWord word (word ++ rest) = some rest := by
  -- The word stands at the start, and what follows it does not make it longer.
  have found : word.isPrefixOf (word ++ rest) = true := List.isPrefixOf_iff_prefix.mpr ⟨rest, rfl⟩
  simp [skipWord, found, continuesWord_eq_false ends]

/-- Hexadecimal digits neither close a literal nor escape anything. -/
theorem hexNumber_plain {start value : Nat} {digits : List Char}
    (denotes : hexNumber? start digits = some value) :
    ∀ digit ∈ digits, digit ≠ '"' ∧ digit ≠ '\\' := by
  induction digits generalizing start with
  | nil => simp
  | cons digit rest ih =>
    -- The quotation mark and the backslash are no hexadecimal digits.
    obtain ⟨place, isHex, more⟩ := Option.bind_eq_some_iff.mp denotes
    refine List.forall_mem_cons.mpr ⟨⟨?_, ?_⟩, ih more⟩ <;>
    · rintro rfl
      exact absurd isHex (by simp [hexValue?])

/-- A quoted text is skipped up to its closing mark, since it holds no other one unprotected. -/
theorem skipQuoted_append {parts : List StringPart} (spelled : StringPart.AllSpelled parts text) :
    skipQuoted (text ++ '"' :: rest) = some rest := by
  induction spelled with
  | nil => simp [skipQuoted]
  | cons first _ ih =>
    cases first with
    | itself unquoted unescaped visible => simp [skipQuoted, unescaped, ih]
    | short known => simp [skipQuoted, ih]
    | @code first second third fourth value digits =>
      -- The code is skipped digit by digit, since only the letter
      -- behind the backslash is protected.
      have plain := hexNumber_plain digits
      simp only [List.forall_mem_cons] at plain
      simp [skipQuoted, plain, ih]

/-- A spelled fraction is skipped up to its end. -/
theorem skipFraction_append {fraction : Option (List Char)}
    (spelled : NumberLiteral.FractionSpelled fraction text) (noDigit : Leaves Char.isDigit rest)
    (noPoint : Leaves (· == '.') rest) : skipFraction (text ++ rest) = rest := by
  cases spelled with
  | absent =>
    cases rest with
    | nil => rfl
    | cons character more =>
      -- Only a point would open a fraction that is not spelled.
      have differs : character ≠ '.' := by simpa using noPoint
      simp [skipFraction, differs]
  | present some_ all => simp [skipFraction, spanDigits_append all noDigit, some_]

/-- A spelled exponent is skipped up to its end. -/
theorem skipExponent_append {exponent : Option (Bool × List Char)}
    (spelled : NumberLiteral.ExponentSpelled exponent text) (ends : Leaves continuesNumber rest) :
    skipExponent (text ++ rest) = rest := by
  cases spelled with
  | absent =>
    cases rest with
    | nil => rfl
    | cons character more =>
      -- Neither marker of an exponent may follow a number without one.
      have stops := leaves_cons.mp ends
      simp only [continuesNumber, Bool.or_eq_false_iff] at stops
      simp [skipExponent, stops]
  | @present marker negative sign digits marked signed some_ all =>
    -- The sign is taken off first, and the digits end where the number does.
    have found := spanDigits_append all (NumberLiteral.leaves_digits ends)
    have marked : marker == 'e' || marker == 'E' := by simpa using marked
    cases signed with
    | minus | plus => simp [skipExponent, found, some_, marked]
    | absent =>
      cases digits with
      | nil => contradiction
      | cons digit more =>
        -- A digit is not mistaken for the sign that is not there.
        obtain ⟨notMinus, notPlus, _⟩ := NumberLiteral.isDigit_ne (all digit (by simp))
        simp only [List.cons_append] at found
        simp [skipExponent, found, marked, notMinus, notPlus]

/-- A number is skipped where neither it nor a word goes on. -/
theorem skipNumber_append {literal : NumberLiteral} (spelled : literal.Spelled text)
    (ends : Leaves continuesLiteral rest) : skipNumber (text ++ rest) = some rest := by
  cases spelled with
  | @intro negative whole fractionText exponentText _ _ all leading fractional scaled =>
    -- Each part ends where the next one begins, so they are skipped one after another.
    obtain ⟨noDigit, noPoint⟩ := scaled.leaves_append (leaves_number ends)
    have wholeTaken := spanDigits_append all (fractional.leaves_append noDigit)
    cases whole with
    | nil => simp [Written.isWhole] at leading
    | cons digit more =>
      obtain ⟨notMinus, _⟩ := NumberLiteral.isDigit_ne (all digit (by simp))
      simp only [List.cons_append] at wholeTaken
      cases negative <;>
        simp [skipNumber, NumberLiteral.minus, notMinus, wholeTaken,
          skipFraction_append fractional noDigit noPoint,
          skipExponent_append scaled (leaves_number ends), continuesWord_eq_false ends]

/-- A text that opens like a number is skipped as one. -/
theorem skipLiteral_number {fuel : Nat} {first : Char} {more : List Char}
    (opens : first = '-' ∨ first.isDigit = true) :
    skipLiteral (fuel + 1) (first :: more) = skipNumber (first :: more) := by
  rw [skipLiteral]
  -- The other arms ask for a first character that opens no number.
  all_goals
    intro _ same
    obtain ⟨rfl, _⟩ := List.cons.inj same
    exact absurd opens (by decide)

/-- Behind a bracket that is not closed at once there are items. -/
theorem skipLiteral_array {fuel : Nat} (inhabited : ∀ after, skipSpace text ≠ ']' :: after) :
    skipLiteral (fuel + 1) ('[' :: text) = skipItems fuel (skipSpace text) := by
  rw [skipLiteral]
  simp only

/-- Behind a brace that is not closed at once there are members. -/
theorem skipLiteral_object {fuel : Nat} (inhabited : ∀ after, skipSpace text ≠ '\x7d' :: after) :
    skipLiteral (fuel + 1) ('\x7b' :: text) = skipMembers fuel (skipSpace text) := by
  rw [skipLiteral]
  simp only

end Expression

namespace Written

open Expression

/-- No space stands in front of a spelled document. -/
theorem Spelled.skipSpace_append {value : Written} {text rest : List Char}
    (spelled : Spelled value text) : skipSpace (text ++ rest) = text ++ rest := by
  obtain ⟨first, more, rfl, visible, _⟩ := spelled.opens
  exact skipSpace_of_leaves (leaves_cons.mpr visible)

-- A call takes three units of fuel for a character, so that none runs out before the text does.

mutual

/-- A spelled document is skipped as a literal. -/
theorem Spelled.skipLiteral_append {value : Written} {text rest : List Char} {fuel : Nat}
    (spelled : Spelled value text) (ends : Leaves continuesLiteral rest)
    (enough : 3 * text.length ≤ fuel) : skipLiteral fuel (text ++ rest) = some rest := by
  cases fuel with
  | zero =>
    -- No document is spelled by the empty text.
    obtain ⟨_, _, rfl, _⟩ := spelled.opens
    simp at enough
  | succ fuel =>
    cases spelled with
    | isNull | isTrue | isFalse => exact skipWord_append ends
    | number spelled =>
      -- A number has no first character of its own, so its arm is reached past all the others.
      have skipped := skipNumber_append spelled ends
      obtain ⟨first, more, rfl, opens⟩ := spelled.opens
      rw [List.cons_append] at skipped ⊢
      rw [skipLiteral_number opens, skipped]
    | string spelled => simp [skipLiteral, skipQuoted_append spelled]
    | noItems blank | noMembers blank => simp [skipLiteral, skipSpace_visible, blank, isSpace]
    | @array items text spelled =>
      simp only [List.length_cons, List.length_append] at enough
      have skipped : skipItems fuel (skipSpace (text ++ ']' :: rest)) = some rest :=
        spelled.skipItems_append (by omega)
      simp [skipLiteral_array spelled.inhabited, skipped]
    | @object members text spelled =>
      simp only [List.length_cons, List.length_append] at enough
      have skipped : skipMembers fuel (skipSpace (text ++ '\x7d' :: rest)) = some rest :=
        spelled.skipMembers_append (by omega)
      simp [skipLiteral_object spelled.inhabited, skipped]

/-- Spelled items are skipped with the bracket behind them. -/
theorem ItemsSpelled.skipItems_append {items : List Written} {text rest : List Char} {fuel : Nat}
    (spelled : ItemsSpelled items text) (enough : 3 * text.length + 1 ≤ fuel) :
    skipItems fuel (skipSpace (text ++ ']' :: rest)) = some rest := by
  cases fuel with
  | zero => omega
  | succ fuel =>
    cases spelled with
    | @last item before text after space spelled moreSpace =>
      simp only [List.length_append] at enough
      have ends : Leaves continuesLiteral (after ++ ']' :: rest) :=
        leaves_space visible_continuesLiteral moreSpace (leaves_cons.mpr rfl)
      have skipped := spelled.skipLiteral_append ends (show 3 * text.length ≤ fuel by omega)
      simp [skipItems, skipSpace_append space, spelled.skipSpace_append, skipped,
        skipSpace_visible, moreSpace, isSpace]
    | @cons item items before text after others space spelled moreSpace more =>
      simp only [List.length_cons, List.length_append] at enough
      have ends : Leaves continuesLiteral (after ++ ',' :: (others ++ ']' :: rest)) :=
        leaves_space visible_continuesLiteral moreSpace (leaves_cons.mpr rfl)
      have skipped := spelled.skipLiteral_append ends (show 3 * text.length ≤ fuel by omega)
      -- A comma follows, so the other items are skipped with one unit of fuel less.
      have moreSkipped : skipItems fuel (skipSpace (others ++ ']' :: rest)) = some rest :=
        more.skipItems_append (by omega)
      simp [skipItems, skipSpace_append space, spelled.skipSpace_append, skipped,
        skipSpace_visible, moreSpace, isSpace, moreSkipped]

/-- Spelled members are skipped with the brace behind them. -/
theorem MembersSpelled.skipMembers_append {members : List (List StringPart × Written)}
    {text rest : List Char} {fuel : Nat} (spelled : MembersSpelled members text)
    (enough : 3 * text.length + 1 ≤ fuel) :
    skipMembers fuel (skipSpace (text ++ '\x7d' :: rest)) = some rest := by
  cases fuel with
  | zero => omega
  | succ fuel =>
    cases spelled with
    | @last member before text after space spelled moreSpace =>
      simp only [List.length_append] at enough
      have ends : Leaves continuesLiteral (after ++ '\x7d' :: rest) :=
        leaves_space visible_continuesLiteral moreSpace (leaves_cons.mpr rfl)
      have skipped := spelled.skipMember_append ends (show 3 * text.length ≤ fuel by omega)
      simp [skipMembers, skipSpace_append space, skipped, skipSpace_visible, moreSpace, isSpace]
    | @cons member members before text after others space spelled moreSpace more =>
      simp only [List.length_cons, List.length_append] at enough
      have ends : Leaves continuesLiteral (after ++ ',' :: (others ++ '\x7d' :: rest)) :=
        leaves_space visible_continuesLiteral moreSpace (leaves_cons.mpr rfl)
      have skipped := spelled.skipMember_append ends (show 3 * text.length ≤ fuel by omega)
      -- A comma follows, so the other members are skipped with one unit of fuel less.
      have moreSkipped : skipMembers fuel (skipSpace (others ++ '\x7d' :: rest)) = some rest :=
        more.skipMembers_append (by omega)
      simp [skipMembers, skipSpace_append space, skipped, skipSpace_visible, moreSpace, isSpace,
        moreSkipped]

/-- A spelled member is skipped. -/
theorem MemberSpelled.skipMember_append {member : List StringPart × Written}
    {text rest : List Char} {fuel : Nat} (spelled : MemberSpelled member text)
    (ends : Leaves continuesLiteral rest) (enough : 3 * text.length ≤ fuel) :
    skipMember fuel (skipSpace (text ++ rest)) = some rest := by
  cases spelled with
  | @intro key value keyText between before text named space moreSpace spelled =>
    simp only [List.length_cons, List.length_append] at enough
    cases fuel with
    | zero => omega
    | succ fuel =>
      -- The quotation marks and the colon pay for the step from the member to its value.
      have skipped := spelled.skipLiteral_append ends (show 3 * text.length ≤ fuel by omega)
      simp [skipMember, skipSpace_of_leaves, isSpace, skipQuoted_append named, skipSpace_visible,
        space, skipSpace_append moreSpace, spelled.skipSpace_append, skipped]

end

end Written

namespace Expression

section Suffix

variable {fuel : Nat} {text rest : List Char}

/-- Behind space an end of the text is left. -/
theorem skipSpace_suffix : skipSpace text <:+ text :=
  List.dropWhile_suffix isSpace

/-- Behind digits an end of the text is left. -/
theorem spanDigits_suffix : (spanDigits text).2 <:+ text := by
  rw [spanDigits, List.span_eq_takeWhile_dropWhile]
  -- What is left behind a run of digits is what was not dropped.
  exact List.dropWhile_suffix Char.isDigit

-- Each way to skip something leaves an end of the text, and so do all of them together.

/-- Behind a word an end of the text is left. -/
theorem skipWord_suffix {word : List Char} (skipped : skipWord word text = some rest) :
    rest <:+ text := by
  unfold skipWord at skipped
  split at skipped
  · obtain rfl := Option.some.inj skipped
    -- A word is skipped by dropping as many characters as it has.
    exact List.drop_suffix _ text
  · contradiction

/-- Behind a quoted text an end of the text is left. -/
theorem skipQuoted_suffix (skipped : skipQuoted text = some rest) : rest <:+ text := by
  -- The cases are the arms of the definition.
  induction text using skipQuoted.induct with
  | case1 => simp [skipQuoted] at skipped
  | case2 behind =>
    obtain rfl := Option.some.inj skipped
    exact List.suffix_cons _ _
  | case3 protected_ behind ih =>
    exact (ih (by simpa [skipQuoted] using skipped)).trans ⟨['\\', protected_], rfl⟩
  | case4 character behind unquoted noEscape lone =>
    -- A backslash that protects nothing ends the text unclosed.
    rw [skipQuoted.eq_4 _ _ unquoted noEscape, if_pos lone] at skipped
    contradiction
  | case5 character behind unquoted noEscape plain ih =>
    rw [skipQuoted.eq_4 _ _ unquoted noEscape, if_neg plain] at skipped
    exact (ih skipped).trans (List.suffix_cons _ _)

/-- Behind a fraction an end of the text is left. -/
theorem skipFraction_suffix : skipFraction text <:+ text := by
  unfold skipFraction
  split
  · simp only
    -- A point counts only with digits behind it; without them nothing is skipped.
    split
    · exact List.suffix_refl _
    · exact spanDigits_suffix.trans (List.suffix_cons _ _)
  · exact List.suffix_refl _

/-- Behind an exponent an end of the text is left. -/
theorem skipExponent_suffix : skipExponent text <:+ text := by
  -- Whatever the sign, the digits behind it are part of the text.
  have inside : ∀ {unsigned : List Char} {condition : Prop} [Decidable condition],
      unsigned <:+ text → (if condition then (spanDigits unsigned).2 else text) <:+ text := by
    intro unsigned condition _ part
    split
    · exact spanDigits_suffix.trans part
    · exact List.suffix_refl _
  unfold skipExponent
  split
  · exact List.suffix_refl _
  · rename_i marker behind
    simp only
    split
    · exact inside ⟨[marker, '+'], rfl⟩
    · exact inside ⟨[marker, '-'], rfl⟩
    · exact inside (List.suffix_cons _ _)

/-- Behind a number an end of the text is left. -/
theorem skipNumber_suffix (skipped : skipNumber text = some rest) : rest <:+ text := by
  -- With or without a minus sign, the digits behind it are part of the text.
  have inside : ∀ {unsigned : List Char} {condition : Prop} [Decidable condition],
      unsigned <:+ text →
        (if condition then none
          else some (skipExponent (skipFraction (spanDigits unsigned).2))) = some rest →
        rest <:+ text := by
    intro unsigned condition _ part skipped
    split at skipped
    · contradiction
    · obtain rfl := Option.some.inj skipped
      exact (skipExponent_suffix.trans skipFraction_suffix).trans (spanDigits_suffix.trans part)
  unfold skipNumber at skipped
  simp only at skipped
  split at skipped
  · exact inside (List.suffix_cons _ _) skipped
  · exact inside (List.suffix_refl _) skipped

mutual

/-- What is left behind a literal is the end of the text. -/
theorem skipLiteral_suffix (fuel : Nat) {text rest : List Char}
    (skipped : skipLiteral fuel text = some rest) : rest <:+ text := by
  cases fuel with
  | zero => simp [skipLiteral] at skipped
  | succ fuel =>
    unfold skipLiteral at skipped
    -- One case for each arm: a string, three words, two containers, a number.
    split at skipped
    · exact (skipQuoted_suffix skipped).trans (List.suffix_cons _ _)
    · exact skipWord_suffix skipped
    · exact skipWord_suffix skipped
    · exact skipWord_suffix skipped
    · -- The bracket and the space behind it are skipped before the items are.
      refine List.IsSuffix.trans ?_ (skipSpace_suffix.trans (List.suffix_cons _ _))
      split at skipped
      case h_1 closed =>
        obtain rfl := Option.some.inj skipped
        exact closed ▸ List.suffix_cons _ _
      case h_2 => exact skipItems_suffix fuel skipped
    · -- The brace and the space behind it are skipped before the members are.
      refine List.IsSuffix.trans ?_ (skipSpace_suffix.trans (List.suffix_cons _ _))
      split at skipped
      case h_1 closed =>
        obtain rfl := Option.some.inj skipped
        exact closed ▸ List.suffix_cons _ _
      case h_2 => exact skipMembers_suffix fuel skipped
    · exact skipNumber_suffix skipped

/-- What is left behind items and their bracket is the end of the text. -/
theorem skipItems_suffix (fuel : Nat) {text rest : List Char}
    (skipped : skipItems fuel text = some rest) : rest <:+ text := by
  cases fuel with
  | zero => simp [skipItems] at skipped
  | succ fuel =>
    rw [skipItems] at skipped
    obtain ⟨afterItem, itemSkipped, skipped⟩ := Option.bind_eq_some_iff.mp skipped
    -- What the item and the space behind it leave is an end of the text already.
    refine List.IsSuffix.trans ?_ (skipSpace_suffix.trans (skipLiteral_suffix fuel itemSkipped))
    split at skipped
    case h_1 comma =>
      exact comma ▸ ((skipItems_suffix fuel skipped).trans skipSpace_suffix).trans (List.suffix_cons _ _)
    case h_2 closed =>
      obtain rfl := Option.some.inj skipped
      exact closed ▸ List.suffix_cons _ _
    case h_3 => contradiction

/-- What is left behind members and their brace is the end of the text. -/
theorem skipMembers_suffix (fuel : Nat) {text rest : List Char}
    (skipped : skipMembers fuel text = some rest) : rest <:+ text := by
  cases fuel with
  | zero => simp [skipMembers] at skipped
  | succ fuel =>
    rw [skipMembers] at skipped
    obtain ⟨afterMember, memberSkipped, skipped⟩ := Option.bind_eq_some_iff.mp skipped
    -- What the member and the space behind it leave is an end of the text already.
    refine List.IsSuffix.trans ?_ (skipSpace_suffix.trans (skipMember_suffix fuel memberSkipped))
    split at skipped
    case h_1 comma =>
      exact comma ▸
        ((skipMembers_suffix fuel skipped).trans skipSpace_suffix).trans (List.suffix_cons _ _)
    case h_2 closed =>
      obtain rfl := Option.some.inj skipped
      exact closed ▸ List.suffix_cons _ _
    case h_3 => contradiction

/-- What is left behind a member is the end of the text. -/
theorem skipMember_suffix (fuel : Nat) {text rest : List Char}
    (skipped : skipMember fuel text = some rest) : rest <:+ text := by
  cases fuel with
  | zero => simp [skipMember] at skipped
  | succ fuel =>
    unfold skipMember at skipped
    split at skipped
    · obtain ⟨afterKey, keySkipped, skipped⟩ := Option.bind_eq_some_iff.mp skipped
      -- The key and the space behind it are skipped before the colon is looked for.
      refine List.IsSuffix.trans ?_
        ((skipSpace_suffix.trans (skipQuoted_suffix keySkipped)).trans (List.suffix_cons _ _))
      split at skipped
      case h_1 colon =>
        exact colon ▸
          ((skipLiteral_suffix fuel skipped).trans skipSpace_suffix).trans (List.suffix_cons _ _)
      case h_2 => contradiction
    · contradiction

end

end Suffix

variable {text rest : List Char}

/-- What is left behind a text is not part of what was taken. -/
theorem taken_append : taken (text ++ rest) rest = text := by
  simp [taken]

/-- A literal and what is left behind it make up the text. -/
theorem readLiteral_parts {literal : List Char} (found : readLiteral text = some (literal, rest)) :
    text = literal ++ rest := by
  -- A literal is skipped first, and then taken off by its length.
  obtain ⟨after, skipped, same⟩ := Option.map_eq_some_iff.mp found
  obtain ⟨rfl, rfl⟩ := Prod.mk.inj same
  -- What is left is an end of the text, so what was taken is all that stands in front of it.
  obtain ⟨front, parts⟩ := skipLiteral_suffix _ skipped
  rw [← parts, taken_append]

/-- A spelled document is read as a literal, up to what ends it. -/
theorem readLiteral_append {value : Written} (spelled : value.Spelled text)
    (ends : Leaves continuesLiteral rest) : readLiteral (text ++ rest) = some (text, rest) := by
  have enough : 3 * text.length ≤ 3 * (text ++ rest).length + 3 := by
    simp only [List.length_append]
    omega
  have skipped := spelled.skipLiteral_append ends enough
  rw [readLiteral, skipped, Option.map_some, taken_append]

end Expression

end RecordFilter
