import RecordFilter.Pattern.Class
import RecordFilter.Proofs.Pattern.Escapes

/-! A class of a pattern is read just the same when a closing parenthesis follows the pattern. -/

namespace RecordFilter.Pattern

variable {flags : Flags} {whole text rest tail more grown : List Char}

namespace Class

/-- A hyphen begins a range or not as it did, unless it was the last that is visible. -/
theorem rangeFollows_grows (grows : Grows whole more text grown)
    (goesOn : ∀ behind, text = '-' :: behind → flags.skip behind ≠ []) :
    rangeFollows flags grown = rangeFollows flags text := by
  cases text with
  | nil =>
    -- A closing parenthesis is no hyphen.
    cases grows <;> rfl
  | cons first behind =>
    obtain rfl := grows.of_cons
    by_cases hyphen : first = '-'
    · subst hyphen
      -- Something visible stands behind the hyphen, and that decides before and after.
      have remains := goesOn behind rfl
      rw [rangeFollows, rangeFollows, Flags.skip_extend remains]
      cases skipped : flags.skip behind with
      | nil => exact absurd skipped remains
      | cons next others =>
        by_cases bracket : next = ']'
        · simp [bracket]
        · by_cases again : next = '-' <;> simp [bracket, again]
    · simp [rangeFollows, hyphen]

/-- A range goes on with a hyphen. -/
theorem begins_of_rangeFollows (follows : rangeFollows flags text = true) :
    ∃ behind, text = '-' :: behind := by
  unfold rangeFollows at follows
  split at follows
  · exact ⟨_, rfl⟩
  · contradiction

/-- Where no hyphen stands none is taken. -/
theorem takeHyphens_of_other {fuel : Nat} (other : ∀ behind, text ≠ '-' :: behind) :
    takeHyphens flags fuel text = (.nothing, text) := by
  cases fuel with
  | zero => rfl
  | succ fuel => exact takeHyphens.eq_2 flags _ text (fun _ behind _ => other behind)

/-- A parenthesis behind the pattern is no hyphen either. -/
theorem takeHyphens_grows_of_other {fuel longer : Nat} {hyphens : CharSet}
    (grows : Grows whole more text grown) (other : ∀ behind, text ≠ '-' :: behind)
    (taken : takeHyphens flags fuel text = (hyphens, rest)) :
    ∃ beyond, takeHyphens flags longer grown = (hyphens, beyond) ∧ Grows whole more rest beyond := by
  have otherStill : ∀ behind, grown ≠ '-' :: behind := by
    cases grows with
    | kept => exact ne_cons_append other (by simp)
    | swallowed => exact other
  rw [takeHyphens_of_other other] at taken
  obtain ⟨rfl, rfl⟩ := Prod.mk.inj taken
  exact ⟨grown, takeHyphens_of_other otherStill, grows⟩

/-- The hyphens at the start of a class are those that were there. -/
theorem takeHyphens_grows {fuel longer : Nat} {hyphens : CharSet} (quiet : Quiet more)
    (grows : Grows whole more text grown) (enough : text.length ≤ fuel)
    (enoughStill : grown.length ≤ longer) (taken : takeHyphens flags fuel text = (hyphens, rest)) :
    ∃ beyond, takeHyphens flags longer grown = (hyphens, beyond) ∧ Grows whole more rest beyond := by
  induction fuel generalizing text grown longer hyphens rest with
  | zero =>
    obtain rfl := List.length_eq_zero_iff.mp (Nat.le_zero.mp enough)
    exact takeHyphens_grows_of_other grows nofun taken
  | succ fuel ih =>
    by_cases hyphen : ∃ behind, text = '-' :: behind
    · obtain ⟨behind, rfl⟩ := hyphen
      have behindGrows := grows.behind
      obtain rfl := grows.of_cons
      -- There is a call for every hyphen, before and after.
      rw [List.length_cons] at enough enoughStill
      obtain ⟨longer, rfl⟩ := Nat.exists_eq_add_of_le' (show 1 ≤ longer by omega)
      have shorter := flags.length_skip_le behind
      have shorterStill := flags.length_skip_le (behind ++ ')' :: more)
      rw [takeHyphens] at taken
      split at taken
      rename_i others after takenBehind
      obtain ⟨rfl, rfl⟩ := Prod.mk.inj taken
      obtain ⟨beyond, takenStill, remains⟩ := ih (Flags.skip_grows flags quiet behindGrows)
        (by omega) (show _ ≤ longer by omega) takenBehind
      refine ⟨beyond, ?_, remains⟩
      rw [takeHyphens, takenStill]
    · exact takeHyphens_grows_of_other grows (fun behind same => hyphen ⟨behind, same⟩) taken

/-- A class is negated as it was. -/
theorem takeCaret_grows {negated : Bool} {items : List Char} (quiet : Quiet more)
    (grows : Grows whole more text grown) (signed : takeCaret flags text = (negated, items)) :
    ∃ beyond, takeCaret flags grown = (negated, beyond) ∧ Grows whole more items beyond := by
  have skipped := Flags.skip_grows flags quiet grows
  -- A parenthesis is no caret, so the class is not negated by it.
  unfold takeCaret at signed
  split at signed
  case h_1 caret =>
    obtain ⟨rfl, rfl⟩ := Prod.mk.inj signed
    rw [caret] at skipped
    refine ⟨_, ?_, Flags.skip_grows flags quiet skipped.behind⟩
    simp only [takeCaret, skipped.of_cons]
  case h_2 noCaret =>
    obtain ⟨rfl, rfl⟩ := Prod.mk.inj signed
    refine ⟨flags.skip grown, ?_, skipped⟩
    have noCaretStill := skipped.ne_cons noCaret (by decide)
    unfold takeCaret
    split
    · exact absurd ‹_› (noCaretStill _)
    · rfl

/-- A bracket in the first place of a class is the one that stood there. -/
theorem takeBracket_grows {hyphens first : CharSet} {items : List Char}
    (grows : Grows whole more text grown) (taken : takeBracket hyphens text = (first, items)) :
    ∃ beyond, takeBracket hyphens grown = (first, beyond) ∧ Grows whole more items beyond := by
  -- Nor is it a bracket.
  unfold takeBracket at taken
  split at taken
  · obtain ⟨rfl, rfl⟩ := Prod.mk.inj taken
    have itemsGrow := grows.behind
    rw [grows.of_cons]
    exact ⟨_, rfl, itemsGrow⟩
  · rename_i noBracket
    obtain ⟨rfl, rfl⟩ := Prod.mk.inj taken
    refine ⟨grown, ?_, grows⟩
    unfold takeBracket
    split
    · rename_i behind
      exact absurd rfl (grows.ne_cons (fun behind => noBracket behind rfl) (by decide) behind)
    · rfl

/-- A class opens as it did. -/
theorem opening_grows {negated : Bool} {first : CharSet} {items : List Char}
    (quiet : Quiet more) (grows : Grows whole more text grown)
    (opened : opening flags text = (negated, first, items)) :
    ∃ beyond, opening flags grown = (negated, first, beyond) ∧ Grows whole more items beyond := by
  -- The caret, the hyphens and the bracket are looked for one behind the other.
  unfold opening at opened
  split at opened
  rename_i sign unsigned signed
  split at opened
  rename_i hyphens behind taken
  obtain ⟨rfl, bracket⟩ := Prod.mk.inj opened
  obtain ⟨unsignedGrown, signedStill, unsignedGrows⟩ := takeCaret_grows quiet grows signed
  obtain ⟨behindGrown, takenStill, behindGrows⟩ :=
    takeHyphens_grows quiet unsignedGrows (Nat.le_refl _) (Nat.le_refl _) taken
  obtain ⟨beyond, bracketStill, remains⟩ := takeBracket_grows behindGrows bracket
  refine ⟨beyond, ?_, remains⟩
  simp only [opening, signedStill, takenStill, bracketStill]

/-- A name that is closed is the same whatever stands behind it. -/
theorem namedBefore?_extend {negated : Bool} {found : CharSet}
    (named : namedBefore? flags negated text = some (found, rest)) (tail : List Char) :
    rest <:+ text ∧ namedBefore? flags negated (text ++ tail) = some (found, rest ++ tail) := by
  unfold namedBefore? at named
  split at named
  rename_i name closed spanned
  split at named
  case h_1 after =>
    obtain ⟨_, known, same⟩ := Option.map_eq_some_iff.mp named
    obtain ⟨rfl, rfl⟩ := Prod.mk.inj same
    obtain ⟨parts, _, _⟩ := span_parts spanned
    -- What is left stands behind the colon and the bracket that close the name.
    have ending : ':' :: ']' :: after <:+ text := ⟨name, parts.symm⟩
    refine ⟨(List.suffix_cons ']' after).trans ((List.suffix_cons ':' _).trans ending), ?_⟩
    simp only [namedBefore?, span_extend_cons spanned, List.cons_append, known, Option.map_some]
  case h_2 => contradiction

/-- No text behind a name that is not closed, or not known, makes it the name of a class. -/
theorem namedBefore?_eq_none {negated : Bool} (quiet : Quiet more)
    (unnamed : namedBefore? flags negated text = none) :
    namedBefore? flags negated (text ++ ')' :: more) = none := by
  cases spanned : text.span (· != ':') with
  | mk name closed =>
    simp only [namedBefore?, spanned] at unnamed
    cases closed with
    | nil =>
      -- There is no colon, before and after.
      obtain ⟨same, inside, _⟩ := span_parts spanned
      rw [List.append_nil] at same
      subst same
      have colonless : ∀ character ∈ text ++ ')' :: more, (character != ':') = true := by
        intro character member
        rcases List.mem_append.mp member with before | behind
        · exact inside character before
        · rcases List.mem_cons.mp behind with rfl | further
          · rfl
          · exact bne_iff_ne.mpr fun colon => quiet.2 (colon ▸ further)
      have spannedStill := span_append colonless leaves_nil
      rw [List.append_nil] at spannedStill
      simp only [namedBefore?, spannedStill]
    | cons colon behind =>
      simp only [namedBefore?, span_extend_cons spanned]
      obtain ⟨_, _, stops⟩ := span_parts spanned
      obtain rfl : colon = ':' := by simpa using leaves_cons.mp stops
      cases behind with
      | nil => rfl
      | cons next after =>
        -- Behind the colon only a bracket closes the name, and then the name was not known.
        by_cases bracket : next = ']'
        · subst bracket
          exact Option.map_eq_none_iff.mpr (Option.map_eq_none_iff.mp unnamed)
        · simp [bracket]

/-- A named class is the same with a parenthesis behind the pattern. -/
theorem readNamed?_extend {found : CharSet} (read : readNamed? flags text = some (found, rest)) :
    rest <:+ text ∧
      readNamed? flags (text ++ ')' :: more) = some (found, rest ++ ')' :: more) := by
  unfold readNamed? at read
  split at read
  case h_1 behind =>
    obtain ⟨ending, readStill⟩ := namedBefore?_extend read (')' :: more)
    exact ⟨(ending.trans (List.suffix_cons '^' behind)).trans (List.suffix_cons ':' _), readStill⟩
  case h_2 behind noCaret =>
    obtain ⟨ending, readStill⟩ := namedBefore?_extend read (')' :: more)
    refine ⟨ending.trans (List.suffix_cons ':' behind), ?_⟩
    rw [List.cons_append, readNamed?.eq_2 _ _ (ne_cons_append noCaret (by simp))]
    exact readStill
  case h_3 => contradiction

/-- What was no named class is none with a parenthesis behind the pattern. -/
theorem readNamed?_eq_none (quiet : Quiet more) (read : readNamed? flags text = none) :
    readNamed? flags (text ++ ')' :: more) = none := by
  unfold readNamed? at read
  split at read
  case h_1 behind => exact namedBefore?_eq_none quiet read
  case h_2 behind noCaret =>
    rw [List.cons_append, readNamed?.eq_2 _ _ (ne_cons_append noCaret (by simp))]
    exact namedBefore?_eq_none quiet read
  case h_3 _ noColon =>
    have noColonStill : ∀ behind, text ++ ')' :: more ≠ ':' :: behind :=
      ne_cons_append noColon (by simp)
    exact readNamed?.eq_3 _ _ (fun rest => noColonStill ('^' :: rest)) noColonStill

/-- A doubled character is the same whatever stands behind it. -/
theorem operation?_extend {found : SetOperation} (read : operation? text = some (found, rest))
    (tail : List Char) :
    rest <:+ text ∧ operation? (text ++ tail) = some (found, rest ++ tail) := by
  unfold operation? at read
  split at read
  case h_2 => contradiction
  case h_1 first second behind =>
    have ending := (List.suffix_cons second behind).trans (List.suffix_cons first _)
    simp only [List.cons_append, operation?]
    split at read <;> simp_all

/-- A closing parenthesis does not become part of a doubled character. -/
theorem operation?_eq_none (inhabited : text ≠ []) (read : operation? text = none) :
    operation? (text ++ ')' :: more) = none := by
  cases text with
  | nil => contradiction
  | cons first others =>
    -- A single character could be doubled only by a parenthesis, which is no operation.
    cases others with
    | nil =>
      simp only [List.cons_append, List.nil_append, operation?]
      split
      case isTrue doubled =>
        obtain rfl : first = ')' := by simpa using doubled
        rfl
      case isFalse => rfl
    | cons second behind =>
      simp only [List.cons_append, operation?] at read ⊢
      split at read <;> simp_all

variable [Engine]

/-- An item of a class is the same whatever stands behind it, short of a brace. -/
theorem readItem_extend {item : Item} (noBrace : tail.head? ≠ some '\x7b')
    (found : readItem flags text = some (item, rest)) :
    rest <:+ text ∧ readItem flags (text ++ tail) = some (item, rest ++ tail) := by
  unfold readItem at found
  split at found
  · contradiction
  · obtain ⟨⟨escape, after⟩, escaped, found⟩ := Option.bind_eq_some_iff.mp found
    obtain ⟨ending, escapedStill⟩ := Escape.read_extend noBrace escaped
    have left := ending.trans (List.suffix_cons '\\' _)
    simp only [List.cons_append, readItem, escapedStill, Option.bind_some]
    -- What an escape is to a class depends on its kind and the flags alone.
    cases escape <;> simp_all
  · simp_all [readItem]

/-- An item or a range is read as it was. -/
theorem readRange_grows {found : CharSet} (quiet : Quiet more) (grows : Grows whole more text grown)
    (read : readRange flags text = some (found, rest)) :
    ∃ beyond, readRange flags grown = some (found, beyond) ∧ Grows whole more rest beyond := by
  unfold readRange at read
  obtain ⟨⟨first, afterFirst⟩, firstRead, read⟩ := Option.bind_eq_some_iff.mp read
  dsimp only at read
  cases grows with
  | swallowed => contradiction
  | kept _ part =>
    have noBrace : (')' :: more).head? ≠ some '\x7b' := by simp
    obtain ⟨firstEnding, firstStill⟩ := readItem_extend noBrace firstRead
    have restGrows := Flags.skip_grows flags quiet (.kept afterFirst (firstEnding.trans part))
    simp only [readRange, firstStill, Option.bind_some]
    -- Either a hyphen and another item follow, or the item stands alone.
    split at read
    case isTrue follows =>
      split at read
      case h_2 => contradiction
      case h_1 low high after secondRead =>
        obtain ⟨behind, hyphen⟩ := begins_of_rangeFollows follows
        rw [hyphen] at restGrows follows secondRead
        rw [restGrows.of_cons]
        have behindGrows := restGrows.behind
        -- The end of the range is an item, so there is something behind the hyphen.
        have remains : flags.skip behind ≠ [] := by
          intro nothing
          simp [nothing, readItem] at secondRead
        obtain ⟨secondEnding, secondStill⟩ := readItem_extend noBrace secondRead
        rw [List.drop_one, List.tail_cons] at secondEnding
        rw [List.drop_one, List.tail_cons, ← Flags.skip_extend remains] at secondStill
        have followsStill : rangeFollows flags (flags.skip (afterFirst ++ ')' :: more)) =
            rangeFollows flags ('-' :: behind) := by
          refine rangeFollows_grows restGrows ?_
          rintro _ ⟨⟩
          exact remains
        rw [follows, restGrows.of_cons] at followsStill
        split at read
        case isFalse => contradiction
        case isTrue ordered =>
          obtain ⟨rfl, rfl⟩ := Prod.mk.inj (Option.some.inj read)
          have ending := secondEnding.trans (flags.skip_suffix behind)
          refine ⟨after ++ ')' :: more, ?_, behindGrows.further ending⟩
          rw [if_pos followsStill, List.drop_one, List.tail_cons, secondStill]
          exact if_pos ordered
    case isFalse alone =>
      -- A hyphen with nothing behind it would make a range.
      have goesOn : ∀ behind, flags.skip afterFirst = '-' :: behind → flags.skip behind ≠ [] := by
        intro behind hyphen nothing
        simp [hyphen, nothing, rangeFollows] at alone
      have aloneStill := rangeFollows_grows restGrows goesOn
      obtain ⟨rfl, rfl⟩ := Prod.mk.inj (Option.some.inj read)
      exact ⟨_, by rw [if_neg (by rwa [aloneStill])], restGrows⟩

/-- What opens or closes no class and is not doubled begins a range. -/
theorem readItems_range {fuel : Nat} {pending : Pending} {found : CharSet} {first : Char}
    {others after : List Char} (ordinary : first ≠ ']' ∧ first ≠ '[')
    (visible : flags.skip text = first :: others) (noOperation : operation? (first :: others) = none)
    (range : readRange flags (first :: others) = some (found, after)) :
    readItems flags (fuel + 1) pending text = readItems flags fuel (pending.add found) after := by
  simp [readItems, visible, ordinary, noOperation, range]

/-- A doubled character ends the left side of an operation. -/
theorem readItems_operation {fuel : Nat} {pending : Pending} {operation : SetOperation}
    {first : Char} {others after : List Char} (ordinary : first ≠ ']' ∧ first ≠ '[')
    (visible : flags.skip text = first :: others)
    (operates : operation? (first :: others) = some (operation, after)) :
    readItems flags (fuel + 1) pending text =
      readItems flags fuel ⟨some (operation, pending.total flags), .nothing⟩ after := by
  simp [readItems, visible, ordinary, operates]

-- A class and its items call each other with one call less; for the
-- longer text there may be more calls.
mutual

/-- A class is read as it was, with its closing bracket. -/
theorem read_grows {fuel longer : Nat} {text grown rest : List Char} {found : CharSet}
    (quiet : Quiet more) (grows : Grows whole more text grown) (enough : fuel ≤ longer)
    (reads : read flags fuel text = some (found, rest)) :
    ∃ beyond, read flags longer grown = some (found, beyond) ∧ Grows whole more rest beyond := by
  cases fuel with
  | zero => simp [read] at reads
  | succ fuel =>
    obtain ⟨longer, rfl⟩ := Nat.exists_eq_add_of_le' (show 1 ≤ longer by omega)
    unfold read at reads
    split at reads
    rename_i negated first items opened
    obtain ⟨itemsGrown, openedStill, itemsGrow⟩ := opening_grows quiet grows opened
    obtain ⟨⟨characters, after⟩, readsItems, same⟩ := Option.map_eq_some_iff.mp reads
    obtain ⟨rfl, rfl⟩ := Prod.mk.inj same
    obtain ⟨beyond, readsStill, remains⟩ :=
      readItems_grows quiet itemsGrow (show fuel ≤ longer by omega) readsItems
    refine ⟨beyond, ?_, remains⟩
    simp only [read, openedStill, readsStill, Option.map_some]

/-- The items of a class are read as they were, up to its closing bracket. -/
theorem readItems_grows {fuel longer : Nat} {text grown rest : List Char} {found : CharSet}
    {pending : Pending} (quiet : Quiet more) (grows : Grows whole more text grown) (enough : fuel ≤ longer)
    (reads : readItems flags fuel pending text = some (found, rest)) :
    ∃ beyond, readItems flags longer pending grown = some (found, beyond) ∧
      Grows whole more rest beyond := by
  cases fuel with
  | zero => simp [readItems] at reads
  | succ fuel =>
    obtain ⟨longer, rfl⟩ := Nat.exists_eq_add_of_le' (show 1 ≤ longer by omega)
    have skipped := Flags.skip_grows flags quiet grows
    -- The class ends, nests another one, is operated on, or goes on with a range.
    simp only [readItems] at reads
    split at reads
    case h_1 => contradiction
    case h_2 after closed =>
      obtain ⟨rfl, rfl⟩ := Prod.mk.inj (Option.some.inj reads)
      rw [closed] at skipped
      have afterGrows := skipped.behind
      simp only [readItems, skipped.of_cons]
      exact ⟨_, rfl, afterGrows⟩
    case h_3 behind nested =>
      rw [nested] at skipped
      have behindGrows := skipped.behind
      simp only [readItems, skipped.of_cons]
      split at reads
      case h_1 found after named =>
        obtain ⟨ending, namedStill⟩ := readNamed?_extend named
        rw [namedStill]
        exact readItems_grows quiet (behindGrows.further ending) (by omega) reads
      case h_2 unnamed =>
        -- What was no name before is none now, so the bracket still opens a nested class.
        rw [readNamed?_eq_none quiet unnamed]
        obtain ⟨⟨inner, after⟩, readsInner, reads⟩ := Option.bind_eq_some_iff.mp reads
        obtain ⟨between, readsInnerStill, remains⟩ :=
          read_grows quiet behindGrows (show fuel ≤ longer by omega) readsInner
        simp only [readsInnerStill, Option.bind_some]
        exact readItems_grows quiet remains (by omega) reads
    case h_4 _ inhabited noBracket noClass =>
      cases visible : flags.skip text with
      | nil => exact absurd visible inhabited
      | cons first others =>
        rw [visible] at skipped reads noBracket noClass
        have ordinary : first ≠ ']' ∧ first ≠ '[' :=
          ⟨fun same => noBracket others (same ▸ rfl), fun same => noClass others (same ▸ rfl)⟩
        split at reads
        case h_1 operation after operates =>
          obtain ⟨ending, operatesStill⟩ := operation?_extend operates (')' :: more)
          rw [readItems_operation ordinary skipped.of_cons operatesStill]
          exact readItems_grows quiet (skipped.further ending) (by omega) reads
        case h_2 noOperation =>
          -- A last character before the parenthesis is not doubled by it.
          obtain ⟨⟨range, after⟩, readsRange, reads⟩ := Option.bind_eq_some_iff.mp reads
          obtain ⟨between, readsRangeStill, remains⟩ :=
            readRange_grows quiet (skipped.further List.suffix_rfl) readsRange
          rw [readItems_range ordinary skipped.of_cons (operation?_eq_none (by simp) noOperation)
            readsRangeStill]
          exact readItems_grows quiet remains (by omega) reads

end

end Class

end RecordFilter.Pattern
