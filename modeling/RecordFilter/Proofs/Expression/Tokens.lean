import RecordFilter.Proofs.Expression.Extension
import RecordFilter.Proofs.Expression.Grammar

/-! The atomic rules of the grammar take what the readers of words,
numbers and quoted texts take. -/

namespace RecordFilter.Expression

/-- Inside of atomic rules, what follows a part of the grammar is what
a reader leaves, for every text. -/
def Skips (whole : List Char) (peg : Peg) (skip : List Char → Option (List Char)) : Prop :=
  ∀ text, Runs whole true peg text ((skip text).map (·, []))

/-- What follows a character of a class. -/
def skipOne (belongs : Char → Bool) (text : List Char) : Option (List Char) :=
  match text with
  | [] => none
  | first :: rest => if belongs first then some rest else none

/-- What follows at least one character of a class, and all others of it behind. -/
def skipSome (belongs : Char → Bool) (text : List Char) : Option (List Char) :=
  let (run, rest) := text.span belongs
  if run.isEmpty then none else some rest

variable {whole text : List Char}

/-- The one character of a class is taken where it stands. -/
@[simp] theorem skipOne_self {letter : Char} : skipOne (· == letter) (letter :: text) = some text := by
  simp [skipOne]

/-- The one character of a class is not taken where it does not stand. -/
theorem skipOne_eq_none {letter : Char} (absent : ∀ rest, text ≠ letter :: rest) :
    skipOne (· == letter) text = none := by
  cases text with
  | nil => rfl
  | cons first rest =>
    have differs : first ≠ letter := fun same => absent rest (same ▸ rfl)
    simp [skipOne, differs]

/-- The one character of a class stands where it is taken. -/
theorem eq_of_skipOne {letter : Char} {rest : List Char}
    (skipped : skipOne (· == letter) text = some rest) : text = letter :: rest := by
  cases text with
  | nil => contradiction
  | cons first more =>
    by_cases same : first = letter
    · subst same
      rw [skipOne_self] at skipped
      rw [Option.some.inj skipped]
    · simp [skipOne, same] at skipped

namespace Skips

variable {first second part : Peg} {skip skipToo : List Char → Option (List Char)}

/-- Readers that leave the same are as good as each other. -/
theorem congr (skips : Skips whole part skip) (same : ∀ text, skip text = skipToo text) :
    Skips whole part skipToo :=
  fun text => same text ▸ skips text

/-- A smallest part has a reader of its own. -/
theorem terminal {terminal : Terminal} :
    Skips whole (.terminal terminal) (terminal.skip whole) :=
  fun _ => .terminal

/-- A second reader goes on where the first has stopped. -/
theorem both (skips : Skips whole first skip) (skipsToo : Skips whole second skipToo) :
    Skips whole (.both first second) (fun text => (skip text).bind skipToo) := by
  intro text
  have front := skips text
  cases found : skip text with
  | none =>
    rw [found] at front
    simpa [found] using Runs.bothFails front
  | some middle =>
    rw [found] at front
    -- Neither reader leaves nodes, and there is no gap between the two.
    simpa [found, Function.comp_def, precede] using Runs.both front (skipsToo middle)

/-- A second reader is tried where the first has failed. -/
theorem either (skips : Skips whole first skip) (skipsToo : Skips whole second skipToo) :
    Skips whole (.either first second) (fun text => (skip text).or (skipToo text)) := by
  intro text
  have front := skips text
  -- Where the first reader fails, the second one starts at the same place.
  cases found : skip text with
  | none =>
    rw [found] at front
    simpa [found] using Runs.eitherSecond front (skipsToo text)
  | some middle =>
    rw [found] at front
    simpa [found] using Runs.eitherFirst front

/-- A reader that may fail leaves the text where it does. -/
theorem maybe (skips : Skips whole part skip) :
    Skips whole (.maybe part) (fun text => some ((skip text).getD text)) := by
  intro text
  have inner := Runs.maybe (skips text)
  rw [Option.getD_map (·, ([] : List Pair)) text (skip text)] at inner
  exact inner

/-- Looking ahead takes nothing. -/
theorem absent (skips : Skips whole part skip) :
    Skips whole (.absent part) (fun text => if (skip text).isSome then none else some text) := by
  intro text
  have inner := Runs.absent (skips text)
  rw [Option.isSome_map] at inner
  -- Whether the reader succeeds is all that looking ahead is about.
  cases found : (skip text).isSome <;> simpa [found] using inner

/-- Rules are transparent where nodes are not left. -/
theorem call {rule : Rule} (skips : Skips whole rule.body skip) : Skips whole (.call rule) skip := by
  intro text
  have inner : Runs whole true (.call rule) text _ := .call (skips text)
  rw [Option.map_map] at inner
  have bare : rule.enclose true text ∘ (·, []) = (·, []) := by
    funext rest
    simp [Rule.enclose]
  rwa [bare] at inner

end Skips

/-- An atomic rule leaves one node where its parts do not fail. -/
theorem Runs.ofSkips {rule : Rule} {skip : List Char → Option (List Char)}
    (kind : rule.kind = .atomic) (skips : Skips whole rule.body skip) (text : List Char) :
    Runs whole false (.call rule) text
      ((skip text).map fun rest => (rest, [⟨rule, taken text rest, []⟩])) := by
  have atomic : (false || decide (rule.kind = .atomic)) = true := by simp [kind]
  -- The parts leave no nodes, so the node of the rule has none below it.
  have inner := Runs.call (atomic ▸ skips text)
  rw [Option.map_map] at inner
  have node : rule.enclose false text ∘ (·, []) =
      fun rest => (rest, [⟨rule, taken text rest, []⟩]) := by
    funext rest
    simp [Rule.enclose, kind]
  rwa [node] at inner

section Classes

variable {first second part : Peg} {belongs alsoBelongs : Char → Bool}

/-- A word of one character is a class of it alone. -/
theorem runs_single {atomic : Bool} (letter : Char) (text : List Char) :
    Runs whole atomic (.word [letter]) text ((skipOne (· == letter) text).map (·, [])) := by
  have same : (Terminal.word [letter]).skip whole text = skipOne (· == letter) text := by
    cases text with
    | nil => rfl
    | cons first rest => simp [Terminal.skip, skipOne, List.isPrefixOf, Bool.beq_comm]
  exact same ▸ .terminal

/-- Such a word is skipped as that class. -/
theorem skips_single (letter : Char) : Skips whole (.word [letter]) (skipOne (· == letter)) :=
  runs_single letter

/-- The characters of two classes make up one class. -/
theorem Skips.eitherClass (skips : Skips whole first (skipOne belongs))
    (skipsToo : Skips whole second (skipOne alsoBelongs)) :
    Skips whole (.either first second)
      (skipOne fun character => belongs character || alsoBelongs character) := by
  refine (skips.either skipsToo).congr fun text => ?_
  cases text with
  | nil => rfl
  | cons first rest => cases inside : belongs first <;> simp [skipOne, inside]

/-- What goes on with a class takes all characters of it. -/
theorem runs_further_class (skips : Skips whole part (skipOne belongs)) (text : List Char) :
    Runs whole true (.further part) text (some (text.dropWhile belongs, [])) := by
  induction text with
  | nil => exact .stops (skips [])
  | cons first rest ih =>
    have once := skips (first :: rest)
    -- The class takes the first character and goes on, or stops in front of it.
    cases inside : belongs first with
    | false =>
      simp only [skipOne, inside] at once
      have stops : Runs whole true (.further part) (first :: rest) _ := .stops once
      simpa [inside] using stops
    | true =>
      simp only [skipOne, inside] at once
      have again : Runs whole true (.further part) (first :: rest) _ := .again once ih
      simpa [inside, precede] using again

/-- A repetition inside of an atomic rule goes on as it begins. -/
theorem Runs.many_of_further {outcome : Outcome}
    (runs : Runs whole true (.further part) text outcome) :
    Runs whole true (.many part) text outcome := by
  cases runs with
  | stops fails => exact .never fails
  | again once others => exact .many once others

/-- A class as often as it comes up, but at least once. -/
theorem skips_some (skips : Skips whole part (skipOne belongs)) :
    Skips whole part.some_ (skipSome belongs) := by
  have many : Skips whole (.many part) (fun text => some (text.dropWhile belongs)) :=
    fun text => (runs_further_class skips text).many_of_further
  refine (skips.both many).congr fun text => ?_
  cases text with
  | nil => rfl
  | cons first rest =>
    cases inside : belongs first <;>
      simp [skipOne, skipSome, inside, List.span_eq_takeWhile_dropWhile]

end Classes

section Words

variable {word : List Char}

/-- A class of characters is skipped as itself. -/
theorem skips_character {belongs : Char → Bool} :
    Skips whole (.terminal (.character belongs)) (skipOne belongs) :=
  Skips.terminal

/-- The characters of an identifier are those of words. -/
theorem skips_identifierCharacter :
    Skips whole (.call .identifierCharacter) (skipOne isWordCharacter) := by
  have classes : Skips whole (.call .identifierCharacter) _ :=
    (skips_character.eitherClass ((skips_single '_').eitherClass ((skips_single '-').eitherClass
      ((skips_single '$').eitherClass (skips_single '@'))))).call
  -- The five classes together are the one class of the reader.
  refine classes.congr fun text => congrArg (skipOne · text) (funext fun character => ?_)
  simp only [isWordCharacter, Bool.or_assoc]

/-- An identifier is a run of such characters. -/
theorem skips_identifier : Skips whole Rule.identifier.body (skipSome isWordCharacter) :=
  skips_some skips_identifierCharacter

/-- A word ends where none of these characters follows. -/
theorem skips_wordEnd :
    Skips whole .wordEnd (fun text => if continuesWord text then none else some text) := by
  refine skips_identifierCharacter.absent.congr fun text => ?_
  cases text with
  | nil => rfl
  | cons first rest => cases inside : isWordCharacter first <;> simp [skipOne, continuesWord, inside]

/-- Characters that were found are a word if the word ends behind them. -/
theorem bind_wordEnd {found : Bool} {rest : List Char} :
    ((if found then some rest else none).bind
      fun text => if continuesWord text then none else some text) =
        if found && !continuesWord rest then some rest else none := by
  cases found <;> cases stops : continuesWord rest <;> simp [stops]

/-- A word of the grammar is a word of the reader. -/
theorem skips_word : Skips whole (.both (.word word) .wordEnd) (skipWord word) :=
  (Skips.terminal.both skips_wordEnd).congr fun _ => bind_wordEnd

/-- A word in letters of either case is one for the reader too. -/
theorem skips_anyCase :
    Skips whole (.both (.terminal (.anyCase word)) .wordEnd) (skipWordAnyCase word) :=
  (Skips.terminal.both skips_wordEnd).congr fun _ => bind_wordEnd

/-- What follows a truth value. -/
def skipBoolean (text : List Char) : Option (List Char) :=
  (skipWord ['t', 'r', 'u', 'e'] text).or (skipWord ['f', 'a', 'l', 's', 'e'] text)

/-- The truth values of the grammar are the two words of the reader. -/
theorem skips_boolean : Skips whole Rule.boolean.body skipBoolean := by
  refine ((Skips.terminal.either Skips.terminal).both skips_wordEnd).congr fun text => ?_
  simp only [Terminal.skip, skipBoolean, skipWord, ← bind_wordEnd]
  -- A text cannot begin with both words, so the end of the one that is found decides.
  cases text with
  | nil => rfl
  | cons first rest =>
    by_cases isTrue : first = 't'
    · subst isTrue
      simp [List.isPrefixOf]
    · simp [List.isPrefixOf, Ne.symm isTrue]

/-- The null of the grammar is the word of the reader. -/
theorem skips_null : Skips whole Rule.null.body (skipWord ['n', 'u', 'l', 'l']) :=
  skips_word

/-- The signs of an operator are the five of the reader. -/
theorem skips_sign : Skips whole .sign (skipOne isSign) := by
  have classes : Skips whole .sign _ :=
    (skips_single '=').eitherClass ((skips_single '!').eitherClass ((skips_single '<').eitherClass
      ((skips_single '>').eitherClass (skips_single '~'))))
  -- The five signs together are the one class of the reader.
  refine classes.congr fun text => congrArg (skipOne · text) (funext fun character => ?_)
  simp only [isSign, List.contains_cons, List.contains_nil, Bool.or_false]

/-- An operator is a run of signs, or else one of letters. -/
theorem skips_operator :
    Skips whole Rule.operator.body
      (fun text => (skipSome isSign text).or (skipSome Char.isAlpha text)) :=
  (skips_some skips_sign).either (skips_some skips_character)

end Words

section Numbers

/-- Digits are skipped as a run. -/
theorem skips_digits : Skips whole Peg.digit.some_ (skipSome Char.isDigit) :=
  skips_some skips_character

/-- A fraction may be missing, and is skipped as by the reader. -/
theorem skips_fraction :
    Skips whole (.maybe (.both (.word ['.']) Peg.digit.some_))
      (fun text => some (skipFraction text)) := by
  refine ((skips_single '.').both skips_digits).maybe.congr fun text => congrArg some ?_
  -- A point without digits behind it is not taken, by the grammar nor by the reader.
  cases text with
  | nil => rfl
  | cons first rest =>
    by_cases point : first = '.'
    · subst point
      simp only [skipOne, skipFraction, skipSome, spanDigits, beq_self_eq_true, if_true,
        Option.bind_some]
      split <;> rename_i whole <;> simp only [whole] <;> rfl
    · simp [skipOne, skipFraction, point]

/-- The marker of an exponent is the same letter in either case. -/
theorem toLower_eq_e {character : Char} :
    (character.toLower == 'e') = (character == 'e' || character == 'E') := by
  rw [Bool.eq_iff_iff, Bool.or_eq_true, beq_iff_eq, beq_iff_eq, beq_iff_eq]
  constructor
  · intro small
    unfold Char.toLower at small
    split at small
    · -- Only one code is moved to that of the small letter.
      have code : (character.val + 32).toNat = 101 := congrArg Char.toNat small
      have shift : (32 : UInt32).toNat = 32 := rfl
      rw [UInt32.toNat_add, shift] at code
      have bound := character.val.toNat_lt
      exact .inr (Char.ext (UInt32.toNat_inj.mp (show character.val.toNat = 69 by omega)))
    · exact .inl small
  · rintro (rfl | rfl) <;> decide

/-- The marker of an exponent, in either case. -/
theorem skips_marker :
    Skips whole (.terminal (.anyCase ['e']))
      (skipOne fun character => character == 'e' || character == 'E') := by
  refine Skips.terminal.congr fun text => ?_
  cases text with
  | nil => rfl
  | cons first rest =>
    simp only [skipOne, ← toLower_eq_e]
    simp [Terminal.skip]

/-- An exponent may be missing, and is skipped as by the reader. -/
theorem skips_exponent :
    Skips whole (.maybe (.both (.terminal (.anyCase ['e']))
        (.both (.maybe (.either (.word ['+']) (.word ['-']))) Peg.digit.some_)))
      (fun text => some (skipExponent text)) := by
  refine (skips_marker.both
    (((skips_single '+').either (skips_single '-')).maybe.both skips_digits)).maybe.congr
      fun text => congrArg some ?_
  cases text with
  | nil => rfl
  | cons marker rest =>
    -- The digits are looked for behind a sign, or where there would be one.
    have parts : skipExponent (marker :: rest) =
        let digits := spanDigits (((skipOne (· == '+') rest).or (skipOne (· == '-') rest)).getD rest)
        if (marker == 'e' || marker == 'E') && !digits.1.isEmpty then digits.2
        else marker :: rest := by
      cases rest with
      | nil => rfl
      | cons first more =>
        by_cases plus : first = '+'
        · subst plus
          rfl
        · by_cases minus : first = '-'
          · subst minus
            rfl
          · simp [skipOne, skipExponent, plus, minus]
    rw [parts]
    cases marked : marker == 'e' || marker == 'E' with
    | false => simp [skipOne, marked]
    | true =>
      generalize found : ((skipOne (· == '+') rest).or (skipOne (· == '-') rest)).getD rest = unsigned
      have behind : skipOne (fun letter => letter == 'e' || letter == 'E') (marker :: rest) =
          some rest := if_pos marked
      -- Without digits behind it the marker stays where it is.
      rw [behind, Option.bind_some, found, Option.bind_some, skipSome, spanDigits]
      obtain ⟨digits, after⟩ := unsigned.span Char.isDigit
      cases digits <;> rfl

/-- A number of the grammar is one for the reader. -/
theorem skips_number : Skips whole Rule.number.body skipNumber := by
  refine ((skips_single '-').maybe.both (skips_digits.both (skips_fraction.both
    (skips_exponent.both skips_wordEnd)))).congr fun text => ?_
  -- The reader in the order of the grammar: a sign that may be
  -- missing, digits, and what may follow.
  have parts : skipNumber text =
      let digits := spanDigits ((skipOne (· == '-') text).getD text)
      let rest := skipExponent (skipFraction digits.2)
      if digits.1.isEmpty || continuesWord rest then none else some rest := by
    cases text with
    | nil => rfl
    | cons first rest =>
      by_cases minus : first = '-'
      · subst minus
        rfl
      · simp [skipOne, skipNumber, minus]
  rw [parts, Option.bind_some, skipSome, spanDigits]
  -- Both fail without digits, and where a word goes on behind the number.
  obtain ⟨digits, after⟩ := ((skipOne (· == '-') text).getD text).span Char.isDigit
  cases digits <;> rfl

end Numbers

section Quoted

/-- What is left where no character and no protected one can be
taken into a quoted text any more. -/
def skipInside : List Char → List Char
  | [] => []
  | '"' :: rest => '"' :: rest
  | '\\' :: _ :: rest => skipInside rest
  -- A backslash that is left here is the last character of the text.
  | character :: rest => if character == '\\' then character :: rest else skipInside rest

/-- A quoted text goes on up to the mark that closes it. -/
theorem skipOne_skipInside (text : List Char) :
    skipOne (· == '"') (skipInside text) = skipQuoted text := by
  induction text using skipInside.induct with
  | case1 => rfl
  | case2 rest => rfl
  | case3 protected_ rest ih => exact ih
  -- A backslash at the very end protects nothing, and is no closing mark.
  | case4 character rest unquoted noEscape lone =>
    rw [skipInside.eq_4 _ _ unquoted noEscape, skipQuoted.eq_4 _ _ unquoted noEscape, if_pos lone,
      if_pos lone]
    exact if_neg (by simpa using unquoted)
  | case5 character rest unquoted noEscape plain ih =>
    rw [skipInside.eq_4 _ _ unquoted noEscape, skipQuoted.eq_4 _ _ unquoted noEscape, if_neg plain,
      if_neg plain, ih]

/-- What follows one character of a quoted text, with the backslash
in front of it if there is one. -/
def skipQuotable : List Char → Option (List Char)
  | '\\' :: _ :: rest => some rest
  | character :: rest => if character == '\\' || character == '"' then none else some rest
  | [] => none

/-- A character other than a backslash is taken unless it is a quotation mark. -/
theorem skipQuotable_plain {character : Char} {rest : List Char} (plain : character ≠ '\\') :
    skipQuotable (character :: rest) = if character == '"' then none else some rest := by
  cases rest <;> simp [skipQuotable, plain]

/-- One character of a quoted text is taken with the backslash in front of it. -/
theorem skips_quotable : Skips whole .quotable skipQuotable := by
  have any : Skips whole .anything (skipOne fun _ => true) := skips_character
  refine (((skips_single '\\').both any).either
    (((skips_single '"').eitherClass (skips_single '\\')).absent.both any)).congr fun text => ?_
  cases text with
  | nil => rfl
  | cons first rest =>
    -- A backslash takes the next character with it; any other stands
    -- for itself unless it closes the text.
    by_cases escape : first = '\\'
    · subst escape
      cases rest <;> rfl
    · rw [skipQuotable_plain escape]
      by_cases mark : first = '"'
      · subst mark
        rfl
      · simp [skipOne, escape, mark]

/-- Characters are taken into a quoted text as long as they can be. -/
theorem runs_further_quotable (text : List Char) :
    Runs whole true (.further .quotable) text (some (skipInside text, [])) := by
  induction text using skipInside.induct with
  | case1 => exact .stops (skips_quotable [])
  | case2 rest => exact .stops (skips_quotable ('"' :: rest))
  -- A protected character is taken with its backslash, also if it is a quotation mark.
  | case3 protected_ rest ih => exact .again (skips_quotable ('\\' :: protected_ :: rest)) ih
  | case4 character rest unquoted noEscape lone =>
    obtain rfl := beq_iff_eq.mp lone
    -- Nothing is left that the backslash could protect.
    cases rest with
    | nil => exact .stops (skips_quotable ['\\'])
    | cons next more => exact absurd rfl (noEscape next more rfl)
  | case5 character rest unquoted noEscape plain ih =>
    have escape : character ≠ '\\' := by simpa using plain
    have once : Runs whole true .quotable (character :: rest) _ := skips_quotable (character :: rest)
    have noMark : (character == '"') = false := by simpa using unquoted
    rw [skipQuotable_plain escape, noMark] at once
    rw [skipInside.eq_4 _ _ unquoted noEscape, if_neg plain]
    exact .again once ih

/-- What follows a quoted text with its opening mark. -/
def skipString (text : List Char) : Option (List Char) :=
  (skipOne (· == '"') text).bind skipQuoted

/-- A quoted text of the grammar is one for the reader. -/
theorem skips_string : Skips whole Rule.string.body skipString := by
  have many : Skips whole (.many .quotable) (fun text => some (skipInside text)) :=
    fun text => (runs_further_quotable text).many_of_further
  -- Between its marks a quoted text has any number of such characters.
  refine ((skips_single '"').both (many.both (skips_single '"'))).congr fun text => ?_
  simp only [Option.bind_some, skipOne_skipInside, skipString]

end Quoted

end RecordFilter.Expression
