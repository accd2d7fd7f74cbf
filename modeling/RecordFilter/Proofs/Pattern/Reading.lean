import RecordFilter.Pattern.Reader
import RecordFilter.Proofs.Pattern.Classes
import RecordFilter.Proofs.Pattern.Matching

/-! A pattern is read just the same when a closing parenthesis follows
it, unless a comment swallows that. -/

namespace RecordFilter.Pattern

variable {flags : Flags} {whole text rest more grown : List Char}

section Groups

variable {tail : List Char}

/-- Flags are the same whatever stands behind the character that ends them. -/
theorem readFlags_extend {state list : FlagList} {closing : Char}
    (found : readFlags state text = some (list, closing, rest)) (tail : List Char) :
    rest <:+ text ∧ readFlags state (text ++ tail) = some (list, closing, rest ++ tail) := by
  -- The cases are the arms of the definition.
  induction state, text using readFlags.induct with
  | case1 => contradiction
  | case2 state behind again => simp [readFlags, again] at found
  | case3 state behind first ih =>
    simp only [readFlags, first, Bool.false_eq_true, ↓reduceIte] at found
    obtain ⟨ending, foundStill⟩ := ih found
    exact ⟨ending.trans (List.suffix_cons '-' behind), by simpa [readFlags, first] using foundStill⟩
  | case4 state letter behind noHyphen closes dangling =>
    rw [readFlags.eq_3 _ _ _ noHyphen, if_pos closes, if_pos dangling] at found
    contradiction
  | case5 state letter behind noHyphen closes complete =>
    rw [readFlags.eq_3 _ _ _ noHyphen, if_pos closes, if_neg complete] at found
    obtain ⟨rfl, rfl, rfl⟩ := found
    refine ⟨List.suffix_cons _ _, ?_⟩
    rw [List.cons_append, readFlags.eq_3 _ _ _ noHyphen, if_pos closes, if_neg complete]
  | case6 state letter behind noHyphen open_ again =>
    rw [readFlags.eq_3 _ _ _ noHyphen, if_neg open_, if_pos again] at found
    contradiction
  | case7 state letter behind noHyphen open_ new ih =>
    -- A letter is taken as a flag, and the others behind it as they were.
    rw [readFlags.eq_3 _ _ _ noHyphen, if_neg open_, if_neg new] at found
    obtain ⟨changed, known, found⟩ := Option.bind_eq_some_iff.mp found
    obtain ⟨ending, foundStill⟩ := ih changed found
    refine ⟨ending.trans (List.suffix_cons letter behind), ?_⟩
    rw [List.cons_append, readFlags.eq_3 _ _ _ noHyphen, if_neg open_, if_neg new, known,
      Option.bind_some]
    exact foundStill

/-- The name of a group is the same whatever stands behind the bracket that closes it. -/
theorem readName_extend {name : List Char} (found : readName text = some (name, rest))
    (tail : List Char) :
    rest <:+ text ∧ readName (text ++ tail) = some (name, rest ++ tail) := by
  unfold readName at found
  split at found
  rename_i letters closed spanned
  split at found
  case h_1 first others bracket after =>
    split at found
    case isTrue named =>
      obtain ⟨rfl, rfl⟩ := Prod.mk.inj (Option.some.inj found)
      -- The bracket that closes the name is there already, so nothing behind it is read.
      obtain ⟨parts, _, _⟩ := span_parts spanned
      have closed : bracket :: after <:+ text := ⟨first :: others, parts.symm⟩
      refine ⟨(List.suffix_cons bracket after).trans closed, ?_⟩
      simp only [readName, span_extend_cons spanned, if_pos named]
    case isFalse => contradiction
  case h_2 => contradiction

/-- How an opening grows with the text behind it. -/
inductive Opening.Grows (whole more : List Char) : Opening → Opening → Prop
  /-- The content of a group grows. -/
  | group {scope : Scope} {rest beyond : List Char} (grows : Pattern.Grows whole more rest beyond) :
      Grows whole more (.group scope rest) (.group scope beyond)
  /-- What follows flags grows. -/
  | flags {scope : Scope} {rest beyond : List Char} (grows : Pattern.Grows whole more rest beyond) :
      Grows whole more (.flags scope rest) (.flags scope beyond)

variable {scope : Scope} {opening : Opening}

/-- A group with a name opens as it did. -/
theorem openNamed_grows (part : text <:+ whole) (opened : openNamed scope text = some opening) :
    ∃ beyond, openNamed scope (text ++ ')' :: more) = some beyond ∧
      Opening.Grows whole more opening beyond := by
  obtain ⟨⟨name, after⟩, named, opened⟩ := Option.bind_eq_some_iff.mp opened
  -- A name may be given only once, which the scope decides.
  dsimp only at opened
  split at opened
  case isTrue => contradiction
  case isFalse new =>
    obtain rfl := Option.some.inj opened
    obtain ⟨ending, namedStill⟩ := readName_extend named (')' :: more)
    refine ⟨_, ?_, .group (.kept after (ending.trans part))⟩
    simp only [openNamed, namedStill, Option.bind_some, if_neg new]

/-- What is no name of a group in one of its spellings does not become one. -/
theorem ne_nameMark_append (absent : ∀ behind, text ≠ 'P' :: '<' :: behind) (behind : List Char) :
    text ++ ')' :: more ≠ 'P' :: '<' :: behind := by
  intro same
  cases text with
  | nil => exact absurd (List.cons.inj same).1 (by decide)
  | cons first others =>
    obtain ⟨rfl, others_⟩ := List.cons.inj same
    have otherwise : ∀ behind, others ++ ')' :: more ≠ '<' :: behind :=
      ne_cons_append (fun behind marked => absent behind (marked ▸ rfl)) (by simp)
    exact otherwise behind others_

/-- What an opening parenthesis begins is what it began. -/
theorem readOpening_grows (grows : Grows whole more text grown)
    (opened : readOpening scope text = some opening) :
    ∃ beyond, readOpening scope grown = some beyond ∧ Opening.Grows whole more opening beyond := by
  -- One case for each arm: two ways to name a group, two to look behind, flags, and no mark at all.
  unfold readOpening at opened
  split at opened
  case h_1 behind =>
    have part := (List.suffix_cons '<' behind).trans
      ((List.suffix_cons 'P' _).trans ((List.suffix_cons '?' _).trans grows.part))
    rw [grows.of_cons]
    exact openNamed_grows part opened
  -- Look-behind is no part of these patterns, so nothing was read.
  case h_2 | h_3 => contradiction
  case h_4 behind noLookbehind noNegation =>
    -- A parenthesis behind the mark does not make it look-behind either.
    have noLookbehindStill : ∀ others, behind ++ ')' :: more ≠ '=' :: others :=
      ne_cons_append noLookbehind (by simp)
    have noNegationStill : ∀ others, behind ++ ')' :: more ≠ '!' :: others :=
      ne_cons_append noNegation (by simp)
    have part := (List.suffix_cons '<' behind).trans ((List.suffix_cons '?' _).trans grows.part)
    rw [grows.of_cons, List.cons_append, readOpening.eq_4 _ _ noLookbehindStill noNegationStill]
    exact openNamed_grows part opened
  case h_5 behind noMark noLookbehind noNegation noName =>
    have noNameStill : ∀ others, behind ++ ')' :: more ≠ '<' :: others :=
      ne_cons_append noName (by simp)
    have behindGrows := grows.behind
    rw [grows.of_cons, readOpening.eq_5 _ _ (ne_nameMark_append noMark)
      (fun _ => noNameStill _) (fun _ => noNameStill _) noNameStill]
    obtain ⟨⟨list, closing, after⟩, listed, opened⟩ := Option.bind_eq_some_iff.mp opened
    obtain ⟨ending, listedStill⟩ := readFlags_extend listed (')' :: more)
    rw [listedStill, Option.bind_some]
    -- A colon behind the flags opens a group, and a parenthesis changes them from here on.
    dsimp only at opened ⊢
    split at opened
    case isTrue groups =>
      obtain rfl := Option.some.inj opened
      exact ⟨_, if_pos groups, .group (behindGrows.further ending)⟩
    case isFalse alone =>
      split at opened
      case isTrue => contradiction
      case isFalse some_ =>
        obtain rfl := Option.some.inj opened
        refine ⟨_, ?_, .flags (behindGrows.further ending)⟩
        rw [if_neg alone, if_neg some_]
  case h_6 _ _ _ _ _ plain =>
    obtain rfl := Option.some.inj opened
    have plainStill := grows.ne_cons plain (by decide)
    exact ⟨_, readOpening.eq_6 _ _ (fun _ => plainStill _) (fun _ => plainStill _)
      (fun _ => plainStill _) (fun _ => plainStill _) plainStill, .group grows⟩

end Groups

section Counts

/-- A question mark is dropped if it was there. -/
theorem dropLazy_grows (grows : Grows whole more text grown) :
    Grows whole more (dropLazy text) (dropLazy grown) := by
  -- A question mark could only be added by what follows, and a parenthesis follows.
  by_cases marked : ∃ behind, text = '?' :: behind
  · obtain ⟨behind, rfl⟩ := marked
    have behindGrows := grows.behind
    rw [grows.of_cons]
    exact behindGrows
  · have plain : ∀ behind, text ≠ '?' :: behind := fun behind same => marked ⟨behind, same⟩
    rw [dropLazy.eq_2 _ plain, dropLazy.eq_2 _ (grows.ne_cons plain (by decide))]
    exact grows

/-- Blanks are dropped up to the same place. -/
theorem dropBlank_grows (grows : Grows whole more text grown) :
    Grows whole more (text.dropWhile Text.isBlank) (grown.dropWhile Text.isBlank) := by
  cases grows with
  | kept _ part =>
    have ending := (List.dropWhile_suffix Text.isBlank).trans part
    -- Where nothing but blanks is left, the parenthesis stops the dropping.
    rw [List.dropWhile_append]
    split
    case isTrue nothing =>
      rw [List.isEmpty_iff.mp nothing]
      exact .kept [] List.nil_suffix
    case isFalse => exact .kept _ ending
  | swallowed comment => exact .swallowed comment

/-- A parenthesis is no digit, so a run of digits ends where it did. -/
theorem takeDigits_grows {digits : List Char} (quiet : Quiet more)
    (grows : Grows whole more text grown)
    (run : flags.takeVisible Char.isDigit false text = (digits, rest)) :
    ∃ beyond, flags.takeVisible Char.isDigit false grown = (digits, beyond) ∧
      Grows whole more rest beyond := by
  cases grows with
  | kept _ part => exact Flags.takeVisible_grows quiet rfl part (by simp) run
  | swallowed comment =>
    obtain ⟨rfl, rfl⟩ := Prod.mk.inj run
    exact ⟨[], rfl, .swallowed comment⟩

/-- A count is the number that it was. -/
theorem readCount_grows {count : Nat} (quiet : Quiet more) (grows : Grows whole more text grown)
    (counted : readCount flags text = some (count, rest)) :
    ∃ beyond, readCount flags grown = some (count, beyond) ∧ Grows whole more rest beyond := by
  unfold readCount at counted
  split at counted
  rename_i digits behind run
  obtain ⟨behindGrown, runStill, behindGrows⟩ := takeDigits_grows quiet (dropBlank_grows grows) run
  -- Without digits, or with a number that is too great, there is no count.
  split at counted
  case isTrue => contradiction
  case isFalse allowed =>
    obtain ⟨rfl, rfl⟩ := Prod.mk.inj (Option.some.inj counted)
    refine ⟨_, ?_, dropBlank_grows behindGrows⟩
    simp only [readCount, runStill, if_neg allowed]

/-- The counts in braces are those that they were. -/
theorem readCounts_grows {least : Nat} {most : Option Nat} (quiet : Quiet more)
    (grows : Grows whole more text grown) (counted : readCounts flags text = some (least, most, rest)) :
    ∃ beyond, readCounts flags grown = some (least, most, beyond) ∧ Grows whole more rest beyond := by
  unfold readCounts at counted
  obtain ⟨⟨low, behind⟩, first, counted⟩ := Option.bind_eq_some_iff.mp counted
  obtain ⟨behindGrown, firstStill, behindGrows⟩ :=
    readCount_grows quiet (Flags.skip_grows flags quiet grows) first
  dsimp only at counted
  split at counted
  case h_1 after =>
    obtain ⟨rfl, rfl, rfl⟩ := counted
    refine ⟨_, ?_, dropLazy_grows (Flags.skip_grows flags quiet behindGrows.behind)⟩
    simp only [readCounts, firstStill, Option.bind_some, behindGrows.of_cons]
  case h_2 upper =>
    -- Behind the comma stands the brace or another count, which decides the arm as before.
    have upperGrows : Grows whole more (flags.skip upper) _ :=
      Flags.skip_grows flags quiet behindGrows.behind
    simp only [readCounts, firstStill, Option.bind_some, behindGrows.of_cons]
    split at counted
    case h_1 after closed =>
      obtain ⟨rfl, rfl, rfl⟩ := counted
      rw [closed] at upperGrows
      refine ⟨_, ?_, dropLazy_grows (Flags.skip_grows flags quiet upperGrows.behind)⟩
      simp only [upperGrows.of_cons]
    case h_2 noClose =>
      obtain ⟨⟨high, closing⟩, second, counted⟩ := Option.bind_eq_some_iff.mp counted
      obtain ⟨closingGrown, secondStill, closingGrows⟩ := readCount_grows quiet upperGrows second
      dsimp only at counted
      split at counted
      case h_1 after =>
        split at counted
        case isTrue ordered =>
          obtain ⟨rfl, rfl, rfl⟩ := counted
          refine ⟨_, ?_, dropLazy_grows (Flags.skip_grows flags quiet closingGrows.behind)⟩
          split
          case h_1 closed => exact absurd closed (upperGrows.ne_cons noClose (by decide) _)
          case h_2 =>
            simp only [secondStill, Option.bind_some, closingGrows.of_cons, if_pos ordered]
        case isFalse => contradiction
      case h_2 => contradiction
  case h_3 => contradiction

/-- A sign of repetition is the one that it was. -/
theorem readRepetition_grows {least : Nat} {most : Option Nat} (quiet : Quiet more)
    (grows : Grows whole more text grown)
    (repeats : readRepetition flags text = some (some (least, most, rest))) :
    ∃ beyond, readRepetition flags grown = some (some (least, most, beyond)) ∧
      Grows whole more rest beyond := by
  unfold readRepetition at repeats
  split at repeats
  case h_4 behind =>
    obtain ⟨_, counted, same⟩ := Option.map_eq_some_iff.mp repeats
    obtain rfl := Option.some.inj same
    obtain ⟨beyond, countedStill, remains⟩ := readCounts_grows quiet grows.behind counted
    refine ⟨beyond, ?_, remains⟩
    simp only [grows.of_cons, readRepetition, countedStill, Option.map_some]
  case h_5 => simp at repeats
  -- The three signs of one character may be followed by a question mark.
  all_goals
    obtain ⟨rfl, rfl, rfl⟩ := repeats
    have restGrows := grows.behind
    rw [grows.of_cons]
    exact ⟨_, rfl, dropLazy_grows restGrows⟩

/-- No sign of repetition comes up where there was none. -/
theorem readRepetition_none_grows (grows : Grows whole more text grown)
    (alone : readRepetition flags text = some none) : readRepetition flags grown = some none := by
  -- No sign was there, and a parenthesis is none.
  unfold readRepetition at alone
  split at alone
  case h_5 noStar noPlus noMark noBrace =>
    exact readRepetition.eq_5 _ _ (grows.ne_cons noStar (by decide))
      (grows.ne_cons noPlus (by decide)) (grows.ne_cons noMark (by decide))
      (grows.ne_cons noBrace (by decide))
  all_goals simp at alone

end Counts

section Bounds

variable {least : Nat} {most : Option Nat}

/-- The least count in braces is no greater than the greatest. -/
theorem readCounts_ordered (counted : readCounts flags text = some (least, most, rest)) :
    ∀ limit ∈ most, least ≤ limit := by
  unfold readCounts at counted
  obtain ⟨⟨low, behind⟩, _, counted⟩ := Option.bind_eq_some_iff.mp counted
  dsimp only at counted
  -- A single count is both the least and the greatest.
  split at counted
  case h_1 =>
    obtain ⟨rfl, rfl, rfl⟩ := counted
    rintro _ ⟨⟩
    exact Nat.le_refl _
  case h_2 =>
    split at counted
    case h_1 =>
      obtain ⟨rfl, rfl, rfl⟩ := counted
      simp
    case h_2 =>
      obtain ⟨⟨high, closing⟩, _, counted⟩ := Option.bind_eq_some_iff.mp counted
      dsimp only at counted
      split at counted
      case h_1 =>
        split at counted
        case isTrue ordered =>
          obtain ⟨rfl, rfl, rfl⟩ := counted
          rintro _ ⟨⟩
          exact ordered
        case isFalse => contradiction
      case h_2 => contradiction
  case h_3 => contradiction

/-- No sign of repetition asks for more rounds than it allows. -/
theorem readRepetition_ordered
    (repeats : readRepetition flags text = some (some (least, most, rest))) :
    ∀ limit ∈ most, least ≤ limit := by
  unfold readRepetition at repeats
  split at repeats
  case h_4 =>
    obtain ⟨_, counted, same⟩ := Option.map_eq_some_iff.mp repeats
    obtain rfl := Option.some.inj same
    exact readCounts_ordered counted
  case h_5 => simp at repeats
  all_goals
    obtain ⟨rfl, rfl, rfl⟩ := repeats
    simp

/-- A single character repeats nothing. -/
theorem literal_bounded {character : Char} : (literal flags character).Bounded := by
  unfold literal
  split <;> trivial

end Bounds

variable [Engine]

section Items

variable {regex : Regex} {scope after : Scope} {fuel : Nat} {last : Option Regex} {first : Char}
  {others : List Char}

/-- A single character, condition or escape is the one that it was. -/
theorem readPrimitive_extend (read : readPrimitive flags text = some (regex, rest)) :
    rest <:+ text ∧
      readPrimitive flags (text ++ ')' :: more) = some (regex, rest ++ ')' :: more) := by
  have noBrace : (')' :: more).head? ≠ some '\x7b' := by simp
  -- Behind a backslash an escape is read, and any other character is read alone.
  unfold readPrimitive at read
  split at read
  case h_1 => contradiction
  case h_2 behind =>
    obtain ⟨⟨escape, after⟩, escaped, read⟩ := Option.bind_eq_some_iff.mp read
    obtain ⟨left, escapedStill⟩ := Escape.read_extend noBrace escaped
    have ending := left.trans (List.suffix_cons '\\' behind)
    simp only [List.cons_append, readPrimitive, escapedStill, Option.bind_some]
    -- What becomes of the escape depends on its kind and the flags alone.
    cases escape with
    | literal => simp_all
    | byte => simp_all
    | characters accepted =>
      obtain ⟨_, finished, same⟩ := Option.map_eq_some_iff.mp read
      obtain ⟨rfl, rfl⟩ := Prod.mk.inj same
      exact ⟨ending, by simp only [finished, Option.map_some]⟩
    | condition => simp_all
  case h_3 behind =>
    obtain ⟨_, dotted, same⟩ := Option.map_eq_some_iff.mp read
    obtain ⟨rfl, rfl⟩ := Prod.mk.inj same
    refine ⟨List.suffix_cons '.' behind, ?_⟩
    simp only [List.cons_append, readPrimitive, dotted, Option.map_some]
  all_goals simp_all [readPrimitive]

/-- A bar, a parenthesis or nothing ends a sequence, and is left behind it. -/
theorem readSequence_end (ended : scope.flags.skip text = rest)
    (closes : ∀ first ∈ rest.head?, first = '|' ∨ first = ')') :
    readSequence (fuel + 1) scope last text = some (last.getD .empty, scope, rest) := by
  cases rest with
  | nil => simp only [readSequence, ended]
  | cons first others =>
    rcases closes first rfl with rfl | rfl
    · simp only [readSequence, ended]
    · simp only [readSequence, ended]

/-- A sign of repetition in a sequence repeats the item before it. -/
theorem readSequence_repeated {least : Nat} {most : Option Nat} {behind : List Char}
    (ordinary : first ≠ '|' ∧ first ≠ ')') (visible : scope.flags.skip text = first :: others)
    (repeats : readRepetition scope.flags (first :: others) = some (some (least, most, behind))) :
    readSequence (fuel + 1) scope last text =
      last.bind fun item => readSequence fuel scope (some (.repeated item least most)) behind := by
  simp [readSequence, visible, ordinary, repeats]

/-- Anything else in a sequence is an item of its own. -/
theorem readSequence_item (ordinary : first ≠ '|' ∧ first ≠ ')')
    (visible : scope.flags.skip text = first :: others)
    (alone : readRepetition scope.flags (first :: others) = some none) :
    readSequence (fuel + 1) scope last text =
      (readItem fuel scope (first :: others)).bind fun (item, afterItem, rest) =>
        (readSequence fuel afterItem item rest).map fun (others, afterOthers, after) =>
          (before last others, afterOthers, after) := by
  simp [readSequence, visible, ordinary, alone]

end Items

-- The three readers call each other with one call less, and never need more calls than they had, so
-- the induction is on the number of calls, which may be greater for the longer text.
mutual

/-- Alternatives are read as they were, up to the parenthesis that follows the pattern. -/
theorem readAlternatives_grows {fuel longer : Nat} {text grown rest : List Char}
    {scope after : Scope} {regex : Regex} (quiet : Quiet more) (grows : Grows whole more text grown)
    (enough : fuel ≤ longer) (reads : readAlternatives fuel scope text = some (regex, after, rest)) :
    ∃ beyond, readAlternatives longer scope grown = some (regex, after, beyond) ∧
      Grows whole more rest beyond := by
  cases fuel with
  | zero => simp [readAlternatives] at reads
  | succ fuel =>
    obtain ⟨longer, rfl⟩ := Nat.exists_eq_add_of_le' (show 1 ≤ longer by omega)
    simp only [readAlternatives] at reads
    obtain ⟨⟨first, afterFirst, behind⟩, readsFirst, reads⟩ := Option.bind_eq_some_iff.mp reads
    obtain ⟨behindGrown, readsFirstStill, behindGrows⟩ :=
      readSequence_grows quiet grows (show fuel ≤ longer by omega) readsFirst
    simp only [readAlternatives, readsFirstStill, Option.bind_some]
    dsimp only at reads
    split at reads
    case h_1 others =>
      obtain ⟨⟨second, afterSecond, _⟩, readsSecond, same⟩ := Option.map_eq_some_iff.mp reads
      obtain ⟨rfl, rfl, rfl⟩ := same
      obtain ⟨beyond, readsSecondStill, remains⟩ :=
        readAlternatives_grows quiet behindGrows.behind (show fuel ≤ longer by omega) readsSecond
      refine ⟨beyond, ?_, remains⟩
      simp only [behindGrows.of_cons, readsSecondStill, Option.map_some]
    case h_2 last =>
      -- No bar followed the sequence, and none follows it now.
      obtain ⟨rfl, rfl, rfl⟩ := reads
      refine ⟨behindGrown, ?_, behindGrows⟩
      split
      case h_1 others => exact absurd rfl (behindGrows.ne_cons last (by decide) others)
      case h_2 => rfl

/-- A sequence is read as it was, up to the parenthesis that follows the pattern. -/
theorem readSequence_grows {fuel longer : Nat} {text grown rest : List Char}
    {scope after : Scope} {last : Option Regex} {regex : Regex} (quiet : Quiet more)
    (grows : Grows whole more text grown) (enough : fuel ≤ longer)
    (reads : readSequence fuel scope last text = some (regex, after, rest)) :
    ∃ beyond, readSequence longer scope last grown = some (regex, after, beyond) ∧
      Grows whole more rest beyond := by
  cases fuel with
  | zero => simp [readSequence] at reads
  | succ fuel =>
    obtain ⟨longer, rfl⟩ := Nat.exists_eq_add_of_le' (show 1 ≤ longer by omega)
    have skipped := Flags.skip_grows scope.flags quiet grows
    cases visible : scope.flags.skip text with
    | nil =>
      -- The pattern ends here: now the parenthesis ends the sequence,
      -- unless a comment has taken it.
      rw [visible] at skipped
      rw [readSequence_end visible (by simp)] at reads
      obtain ⟨rfl, rfl, rfl⟩ := reads
      refine ⟨_, readSequence_end rfl ?_, skipped⟩
      rcases skipped.of_nil with closes | ⟨nothing, _⟩
      · simp [closes]
      · simp [nothing]
    | cons first others =>
      rw [visible] at skipped
      have skippedStill := skipped.further List.suffix_rfl
      -- A bar or a parenthesis ends the sequence, and anything else is repeated or read.
      by_cases ordinary : first ≠ '|' ∧ first ≠ ')'
      · cases sign : readRepetition scope.flags (first :: others) with
        | none => simp [readSequence, visible, ordinary, sign] at reads
        | some repetition =>
          cases repetition with
          | some bounds =>
            obtain ⟨least, most, behind⟩ := bounds
            obtain ⟨behindGrown, signStill, behindGrows⟩ :=
              readRepetition_grows quiet skippedStill sign
            rw [readSequence_repeated ordinary visible sign] at reads
            rw [readSequence_repeated ordinary skipped.of_cons signStill]
            obtain ⟨item, rfl, reads⟩ := Option.bind_eq_some_iff.mp reads
            exact readSequence_grows quiet behindGrows (by omega) reads
          | none =>
            have signStill : readRepetition scope.flags (first :: (others ++ ')' :: more)) =
                some none := readRepetition_none_grows skippedStill sign
            rw [readSequence_item ordinary visible sign] at reads
            rw [readSequence_item ordinary skipped.of_cons signStill]
            obtain ⟨⟨item, afterItem, behind⟩, readsItem, reads⟩ := Option.bind_eq_some_iff.mp reads
            obtain ⟨⟨further, afterFurther, _⟩, readsFurther, same⟩ :=
              Option.map_eq_some_iff.mp reads
            obtain ⟨rfl, rfl, rfl⟩ := same
            obtain ⟨behindGrown, readsItemStill, behindGrows⟩ :=
              readItem_grows quiet skippedStill (show fuel ≤ longer by omega) readsItem
            obtain ⟨beyond, readsFurtherStill, remains⟩ :=
              readSequence_grows quiet behindGrows (show fuel ≤ longer by omega) readsFurther
            refine ⟨beyond, ?_, remains⟩
            rw [List.cons_append] at readsItemStill
            simp only [readsItemStill, Option.bind_some, readsFurtherStill, Option.map_some]
      · -- The sequence ends where it did.
        have closes : first = '|' ∨ first = ')' := by
          rwa [← not_or, Classical.not_not] at ordinary
        rw [readSequence_end visible (by simpa using closes)] at reads
        obtain ⟨rfl, rfl, rfl⟩ := reads
        exact ⟨_, readSequence_end skipped.of_cons (by simpa using closes), skippedStill⟩

/-- An item is read as it was, with whatever belongs to it. -/
theorem readItem_grows {fuel longer : Nat} {text grown rest : List Char}
    {scope after : Scope} {item : Option Regex} (quiet : Quiet more)
    (grows : Grows whole more text grown) (enough : fuel ≤ longer)
    (reads : readItem fuel scope text = some (item, after, rest)) :
    ∃ beyond, readItem longer scope grown = some (item, after, beyond) ∧
      Grows whole more rest beyond := by
  cases fuel with
  | zero => simp [readItem] at reads
  | succ fuel =>
    obtain ⟨longer, rfl⟩ := Nat.exists_eq_add_of_le' (show 1 ≤ longer by omega)
    -- An item is a group, a class, or a primitive.
    unfold readItem at reads
    split at reads
    case h_1 behind =>
      obtain ⟨opening, opens, reads⟩ := Option.bind_eq_some_iff.mp reads
      obtain ⟨openingGrown, opensStill, openingGrows⟩ :=
        readOpening_grows (Flags.skip_grows scope.flags quiet grows.behind) opens
      simp only [grows.of_cons, readItem, opensStill, Option.bind_some]
      cases openingGrows with
      | flags afterGrows =>
        obtain ⟨rfl, rfl, rfl⟩ := reads
        exact ⟨_, rfl, afterGrows⟩
      | group contentGrows =>
        obtain ⟨⟨group, afterGroup, closing⟩, readsGroup, reads⟩ := Option.bind_eq_some_iff.mp reads
        obtain ⟨closingGrown, readsGroupStill, closingGrows⟩ :=
          readAlternatives_grows quiet contentGrows (show fuel ≤ longer by omega) readsGroup
        -- The group was closed inside of the pattern, so it is closed there still.
        dsimp only at reads
        split at reads
        case h_1 =>
          obtain ⟨rfl, rfl, rfl⟩ := reads
          refine ⟨_, ?_, closingGrows.behind⟩
          simp only [readsGroupStill, Option.bind_some, closingGrows.of_cons]
        case h_2 => contradiction
    case h_2 behind =>
      obtain ⟨⟨accepted, _⟩, readsClass, reads⟩ := Option.bind_eq_some_iff.mp reads
      obtain ⟨_, finished, same⟩ := Option.map_eq_some_iff.mp reads
      obtain ⟨rfl, rfl, rfl⟩ := same
      -- Classes get calls by the length of the text, which has grown.
      have enoughForClass : 2 * behind.length + 2 ≤ 2 * (behind ++ ')' :: more).length + 2 := by
        rw [List.length_append]
        omega
      obtain ⟨beyond, readsClassStill, remains⟩ :=
        Class.read_grows quiet grows.behind enoughForClass readsClass
      refine ⟨beyond, ?_, remains⟩
      simp only [grows.of_cons, readItem, readsClassStill, Option.bind_some, finished,
        Option.map_some]
    case h_3 noGroup noClass =>
      obtain ⟨⟨primitive, _⟩, readsPrimitive, same⟩ := Option.map_eq_some_iff.mp reads
      obtain ⟨rfl, rfl, rfl⟩ := same
      cases grows with
      | kept _ part =>
        obtain ⟨ending, readsStill⟩ := readPrimitive_extend readsPrimitive
        refine ⟨_, ?_, .kept _ (ending.trans part)⟩
        rw [readItem.eq_4 _ _ _ (ne_cons_append noGroup (by simp)) (ne_cons_append noClass (by simp)),
          readsStill, Option.map_some]
      | swallowed => contradiction

end

/-- Neither does a condition or an escape. -/
theorem readPrimitive_bounded {regex : Regex} (read : readPrimitive flags text = some (regex, rest)) :
    regex.Bounded := by
  -- No primitive is a repetition, of whatever kind it is.
  unfold readPrimitive at read
  split at read
  case h_1 => contradiction
  case h_2 =>
    obtain ⟨⟨escape, after⟩, _, read⟩ := Option.bind_eq_some_iff.mp read
    cases escape with
    | literal =>
      obtain ⟨rfl, rfl⟩ := Prod.mk.inj (Option.some.inj read)
      exact literal_bounded
    | byte =>
      dsimp only at read
      split at read
      case isTrue =>
        obtain ⟨rfl, rfl⟩ := Prod.mk.inj (Option.some.inj read)
        exact literal_bounded
      case isFalse => contradiction
    | characters =>
      obtain ⟨_, _, same⟩ := Option.map_eq_some_iff.mp read
      obtain ⟨rfl, rfl⟩ := Prod.mk.inj same
      trivial
    | condition =>
      obtain ⟨rfl, rfl⟩ := Prod.mk.inj (Option.some.inj read)
      trivial
  case h_3 =>
    obtain ⟨_, _, same⟩ := Option.map_eq_some_iff.mp read
    obtain ⟨rfl, rfl⟩ := Prod.mk.inj same
    trivial
  case h_6 =>
    obtain ⟨rfl, rfl⟩ := Prod.mk.inj (Option.some.inj read)
    exact literal_bounded
  all_goals
    obtain ⟨rfl, rfl⟩ := Prod.mk.inj (Option.some.inj read)
    trivial

-- Only a sign of repetition makes a repetition, and its counts
-- are ordered; the rest is put together.
mutual

/-- The repetitions in alternatives allow as many rounds as they ask for. -/
theorem readAlternatives_bounded {fuel : Nat} {text rest : List Char} {scope after : Scope}
    {regex : Regex} (reads : readAlternatives fuel scope text = some (regex, after, rest)) :
    regex.Bounded := by
  cases fuel with
  | zero => simp [readAlternatives] at reads
  | succ fuel =>
    simp only [readAlternatives] at reads
    obtain ⟨⟨first, afterFirst, behind⟩, readsFirst, reads⟩ := Option.bind_eq_some_iff.mp reads
    have firstBounded := readSequence_bounded (by simp) readsFirst
    dsimp only at reads
    split at reads
    case h_1 =>
      obtain ⟨⟨second, afterSecond, _⟩, readsSecond, same⟩ := Option.map_eq_some_iff.mp reads
      obtain ⟨rfl, rfl, rfl⟩ := same
      exact ⟨firstBounded, readAlternatives_bounded readsSecond⟩
    case h_2 =>
      obtain ⟨rfl, rfl, rfl⟩ := reads
      exact firstBounded

/-- So do those in a sequence, if the last item before it does. -/
theorem readSequence_bounded {fuel : Nat} {text rest : List Char} {scope after : Scope}
    {last : Option Regex} {regex : Regex} (lastBounded : ∀ item ∈ last, item.Bounded)
    (reads : readSequence fuel scope last text = some (regex, after, rest)) : regex.Bounded := by
  cases fuel with
  | zero => simp [readSequence] at reads
  | succ fuel =>
    -- Where the sequence ends, the last item is all that is left.
    have ended : (last.getD .empty).Bounded := by
      cases last with
      | none => trivial
      | some item => exact lastBounded item rfl
    simp only [readSequence] at reads
    split at reads
    case h_4 =>
      obtain ⟨repetition, sign, reads⟩ := Option.bind_eq_some_iff.mp reads
      split at reads
      case h_1 least most behind =>
        obtain ⟨item, rfl, reads⟩ := Option.bind_eq_some_iff.mp reads
        -- The repeated item is the last one from here on.
        refine readSequence_bounded ?_ reads
        rintro _ ⟨⟩
        exact ⟨lastBounded item rfl, readRepetition_ordered sign⟩
      case h_2 =>
        obtain ⟨⟨item, afterItem, behind⟩, readsItem, reads⟩ := Option.bind_eq_some_iff.mp reads
        obtain ⟨⟨further, afterFurther, _⟩, readsFurther, same⟩ := Option.map_eq_some_iff.mp reads
        obtain ⟨rfl, rfl, rfl⟩ := same
        have furtherBounded := readSequence_bounded (readItem_bounded readsItem) readsFurther
        cases last with
        | none => exact furtherBounded
        | some item => exact ⟨lastBounded item rfl, furtherBounded⟩
    all_goals
      obtain ⟨rfl, rfl, rfl⟩ := reads
      exact ended

/-- So do those in a group. -/
theorem readItem_bounded {fuel : Nat} {text rest : List Char} {scope after : Scope}
    {item : Option Regex} (reads : readItem fuel scope text = some (item, after, rest)) :
    ∀ regex ∈ item, regex.Bounded := by
  cases fuel with
  | zero => simp [readItem] at reads
  | succ fuel =>
    unfold readItem at reads
    split at reads
    case h_1 =>
      obtain ⟨opening, opens, reads⟩ := Option.bind_eq_some_iff.mp reads
      cases opening with
      | flags =>
        obtain ⟨rfl, rfl, rfl⟩ := reads
        nofun
      | group =>
        obtain ⟨⟨group, afterGroup, closing⟩, readsGroup, reads⟩ := Option.bind_eq_some_iff.mp reads
        dsimp only at reads
        split at reads
        case h_1 =>
          obtain ⟨rfl, rfl, rfl⟩ := reads
          rintro _ ⟨⟩
          exact readAlternatives_bounded readsGroup
        case h_2 => contradiction
    case h_2 =>
      obtain ⟨_, _, reads⟩ := Option.bind_eq_some_iff.mp reads
      obtain ⟨_, _, same⟩ := Option.map_eq_some_iff.mp reads
      obtain ⟨rfl, rfl, rfl⟩ := same
      rintro _ ⟨⟩
      trivial
    case h_3 =>
      obtain ⟨⟨primitive, _⟩, readsPrimitive, same⟩ := Option.map_eq_some_iff.mp reads
      obtain ⟨rfl, rfl, rfl⟩ := same
      rintro _ ⟨⟩
      exact readPrimitive_bounded readsPrimitive

end

/-- A pattern is read by its alternatives, with nothing left behind them. -/
theorem read_eq_some_iff {regex : Regex} : read text = some regex ↔
    ∃ scope, readAlternatives (3 * text.length + 3) ⟨Flags.initial, []⟩ text =
      some (regex, scope, []) := by
  unfold read
  constructor
  · intro reads
    split at reads
    case h_1 whole =>
      obtain rfl := Option.some.inj reads
      exact ⟨_, whole⟩
    case h_2 => contradiction
  · rintro ⟨scope, whole⟩
    rw [whole]

end RecordFilter.Pattern
