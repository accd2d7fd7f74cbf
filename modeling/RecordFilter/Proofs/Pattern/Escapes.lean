import RecordFilter.Proofs.Pattern.Skipping

/-!
An escape of a pattern is read just the same whatever stands behind it, short of a brace, and what
it leaves is an end of the text.
-/

namespace RecordFilter.Pattern.Escape

variable {flags : Flags} {text rest tail : List Char} {taken : List Char} {character : Char}
  {escape : Escape}

/-- A fixed number of characters is taken from the start of a text, whatever stands behind it. -/
theorem takeFixed?_extend {count : Nat} (found : takeFixed? flags count text = some (taken, rest))
    (tail : List Char) :
    rest <:+ text ∧ takeFixed? flags count (text ++ tail) = some (taken, rest ++ tail) := by
  -- Every character is found behind what is skipped, so the induction is on how many there are.
  induction count generalizing text taken with
  | zero =>
    obtain ⟨rfl, rfl⟩ := Prod.mk.inj (Option.some.inj found)
    exact ⟨List.suffix_rfl, rfl⟩
  | succ count ih =>
    cases visible : flags.skip text with
    | nil => simp [takeFixed?, visible] at found
    | cons first behind =>
      simp only [takeFixed?, visible] at found
      obtain ⟨⟨others, after⟩, takes, same⟩ := Option.map_eq_some_iff.mp found
      obtain ⟨rfl, rfl⟩ := Prod.mk.inj same
      obtain ⟨ending, takesStill⟩ := ih takes
      have skipped : first :: behind <:+ text := visible ▸ flags.skip_suffix text
      refine ⟨ending.trans ((List.suffix_cons first behind).trans skipped), ?_⟩
      simp only [takeFixed?, Flags.skip_extend_cons visible, takesStill, Option.map_some]

/-- What stands before a closing brace is taken with the brace, whatever stands behind it. -/
theorem go_extend {inside : Bool} (found : takeBraced?.go flags inside text = some (taken, rest))
    (tail : List Char) :
    rest <:+ text ∧ takeBraced?.go flags inside (text ++ tail) = some (taken, rest ++ tail) := by
  -- The cases are the arms of the definition: only the brace ends the text that is taken.
  induction inside, text using takeBraced?.go.induct flags generalizing taken with
  | case1 => simp [takeBraced?.go] at found
  | case2 first behind ih =>
    obtain ⟨ending, foundStill⟩ := ih found
    exact ⟨ending.trans (List.suffix_cons first behind), foundStill⟩
  | case3 first behind closes =>
    rw [takeBraced?.go, if_pos closes] at found
    obtain ⟨rfl, rfl⟩ := Prod.mk.inj (Option.some.inj found)
    exact ⟨List.suffix_cons first behind, by rw [List.cons_append, takeBraced?.go, if_pos closes]⟩
  | case4 first behind open_ comment ih =>
    rw [takeBraced?.go, if_neg open_, if_pos comment] at found
    obtain ⟨ending, foundStill⟩ := ih found
    refine ⟨ending.trans (List.suffix_cons first behind), ?_⟩
    rw [List.cons_append, takeBraced?.go, if_neg open_, if_pos comment, foundStill]
  | case5 first behind open_ noComment blank ih =>
    rw [takeBraced?.go, if_neg open_, if_neg noComment, if_pos blank] at found
    obtain ⟨ending, foundStill⟩ := ih found
    refine ⟨ending.trans (List.suffix_cons first behind), ?_⟩
    rw [List.cons_append, takeBraced?.go, if_neg open_, if_neg noComment, if_pos blank, foundStill]
  | case6 first behind open_ noComment visible ih =>
    rw [takeBraced?.go, if_neg open_, if_neg noComment, if_neg visible] at found
    obtain ⟨⟨others, after⟩, takes, same⟩ := Option.map_eq_some_iff.mp found
    obtain ⟨rfl, rfl⟩ := Prod.mk.inj same
    obtain ⟨ending, takesStill⟩ := ih takes
    refine ⟨ending.trans (List.suffix_cons first behind), ?_⟩
    rw [List.cons_append, takeBraced?.go, if_neg open_, if_neg noComment, if_neg visible, takesStill,
      Option.map_some]

/-- A text in braces is the same whatever stands behind the closing one. -/
theorem takeBraced?_extend (found : takeBraced? flags text = some (taken, rest)) (tail : List Char) :
    rest <:+ text ∧ takeBraced? flags (text ++ tail) = some (taken, rest ++ tail) :=
  go_extend found tail

/-- The character of a code does not depend on what follows the digits. -/
theorem ofCode?_extend (found : ofCode? (taken, rest) = some (character, tail)) (behind : List Char) :
    tail = rest ∧ ofCode? (taken, behind) = some (character, behind) := by
  unfold ofCode? at found ⊢
  split at found
  case isTrue => contradiction
  case isFalse some_ =>
    obtain ⟨code, number, found⟩ := Option.bind_eq_some_iff.mp found
    obtain ⟨_, valid, same⟩ := Option.map_eq_some_iff.mp found
    obtain ⟨rfl, rfl⟩ := Prod.mk.inj same
    refine ⟨rfl, ?_⟩
    simp [some_, number, valid]

/-- The escape for a code of some digits is the same whatever stands behind it. -/
theorem code?_extend {count : Nat} (found : code? flags count text = some (escape, rest))
    (digits : count ≠ 0) (tail : List Char) :
    rest <:+ text ∧ code? flags count (text ++ tail) = some (escape, rest ++ tail) := by
  have skipped := flags.skip_suffix text
  unfold code? at found
  -- The digits stand in braces, or there is a fixed number of them.
  split at found
  case h_1 braced visible =>
    rw [visible] at skipped
    obtain ⟨⟨_, after⟩, coded, same⟩ := Option.map_eq_some_iff.mp found
    obtain ⟨rfl, rfl⟩ := Prod.mk.inj same
    obtain ⟨⟨code, behind⟩, takes, coded⟩ := Option.bind_eq_some_iff.mp coded
    obtain ⟨ending, takesStill⟩ := takeBraced?_extend takes tail
    obtain ⟨rfl, codedStill⟩ := ofCode?_extend coded (behind ++ tail)
    refine ⟨ending.trans ((List.suffix_cons _ braced).trans skipped), ?_⟩
    simp only [code?, Flags.skip_extend_cons visible, takesStill, Option.bind_some, codedStill,
      Option.map_some]
  case h_2 unbraced =>
    obtain ⟨⟨_, after⟩, coded, same⟩ := Option.map_eq_some_iff.mp found
    obtain ⟨rfl, rfl⟩ := Prod.mk.inj same
    obtain ⟨⟨code, behind⟩, takes, coded⟩ := Option.bind_eq_some_iff.mp coded
    obtain ⟨rfl, codedStill⟩ := ofCode?_extend coded (behind ++ tail)
    -- At least one digit is there, so what is skipped does not reach the end.
    have remains : flags.skip text ≠ [] := by
      intro nothing
      obtain ⟨count, rfl⟩ := Nat.exists_eq_succ_of_ne_zero digits
      have nothingAgain : flags.skip [] = [] := by simp [Flags.skip, Flags.skip.go]
      rw [nothing, takeFixed?, nothingAgain] at takes
      contradiction
    obtain ⟨ending, takesStill⟩ := takeFixed?_extend takes tail
    refine ⟨ending.trans skipped, ?_⟩
    have unbracedStill : ∀ others, flags.skip (text ++ tail) ≠ '\x7b' :: others := by
      rw [Flags.skip_extend remains]
      intro others same
      cases visible : flags.skip text with
      | nil => exact remains visible
      | cons first more =>
        rw [visible, List.cons_append] at same
        exact unbraced more (by rw [visible, (List.cons.inj same).1])
    rw [code?]
    split
    case h_1 others same => exact absurd same (unbracedStill others)
    case h_2 =>
      rw [Flags.skip_extend remains, takesStill, Option.bind_some, codedStill, Option.map_some]

/-- A word boundary is the same whatever stands behind it, short of a brace. -/
theorem boundary?_extend (noBrace : tail.head? ≠ some '\x7b')
    (found : boundary? flags text = some (escape, rest)) :
    rest <:+ text ∧ boundary? flags (text ++ tail) = some (escape, rest ++ tail) := by
  unfold boundary? at found
  dsimp only at found
  split at found
  case h_1 braced =>
    cases parts : flags.takeVisible (fun character => character.isAlpha || character == '-') false
        braced with
    | mk name closed =>
      simp only [parts] at found
      cases closed with
      | nil => cases name <;> contradiction
      | cons next after =>
        have ending := (List.suffix_cons next after).trans (Flags.takeVisible_suffix parts)
        simp only [List.cons_append, boundary?, Flags.takeVisible_extend parts]
        -- Without a letter behind the brace there is no name, and the brace stands for itself.
        cases name with
        | nil =>
          obtain ⟨rfl, rfl⟩ := Prod.mk.inj (Option.some.inj found)
          exact ⟨List.suffix_rfl, rfl⟩
        | cons letter others =>
          -- The name must be closed, and that is behind it already.
          by_cases closes : next = '\x7d'
          · subst closes
            obtain ⟨_, special, same⟩ := Option.map_eq_some_iff.mp found
            obtain ⟨rfl, rfl⟩ := Prod.mk.inj same
            exact ⟨ending.trans (List.suffix_cons _ braced), by simp only [special, Option.map_some]⟩
          · simp [closes] at found
  case h_2 unbraced =>
    obtain ⟨rfl, rfl⟩ := Prod.mk.inj (Option.some.inj found)
    -- No brace follows the letter now either.
    have unbracedStill := ne_cons_append unbraced noBrace
    exact ⟨List.suffix_rfl, boundary?.eq_2 flags _ unbracedStill⟩

variable [Engine]

/-- The class of a property is the same whatever stands behind its name. -/
theorem propertyClass?_extend {negated : Bool}
    (found : propertyClass? flags negated text = some (escape, rest)) (tail : List Char) :
    rest <:+ text ∧
      propertyClass? flags negated (text ++ tail) = some (escape, rest ++ tail) := by
  have skipped := flags.skip_suffix text
  unfold propertyClass? at found
  dsimp only at found
  split at found
  case isFalse => contradiction
  case isTrue unicode =>
    obtain ⟨⟨⟨excluded, named⟩, after⟩, describes, same⟩ := Option.map_eq_some_iff.mp found
    obtain ⟨rfl, rfl⟩ := Prod.mk.inj same
    split at describes
    case h_1 braced visible =>
      rw [visible] at skipped
      obtain ⟨⟨description, _⟩, takes, describes⟩ := Option.bind_eq_some_iff.mp describes
      obtain ⟨_, described, same⟩ := Option.map_eq_some_iff.mp describes
      obtain ⟨rfl, rfl⟩ := Prod.mk.inj same
      -- The description is closed already, so nothing behind it belongs to it.
      obtain ⟨ending, takesStill⟩ := takeBraced?_extend takes tail
      refine ⟨ending.trans ((List.suffix_cons _ braced).trans skipped), ?_⟩
      simp [propertyClass?, unicode, Flags.skip_extend_cons visible, takesStill, described]
    case h_2 letter behind unbraced visible =>
      rw [visible] at skipped
      obtain ⟨_, property, same⟩ := Option.map_eq_some_iff.mp describes
      obtain ⟨sign, rfl⟩ := Prod.mk.inj same
      obtain ⟨rfl, rfl⟩ := Prod.mk.inj sign
      refine ⟨(List.suffix_cons letter behind).trans skipped, ?_⟩
      simp [propertyClass?, unicode, Flags.skip_extend_cons visible, property]
    case h_3 => contradiction

/-- An escape is the same whatever stands behind it, short of a brace. -/
theorem read_extend (noBrace : tail.head? ≠ some '\x7b')
    (found : read flags text = some (escape, rest)) :
    rest <:+ text ∧ read flags (text ++ tail) = some (escape, rest ++ tail) := by
  -- Codes, properties and boundaries are read further, and all others are one character.
  unfold read at found
  split at found
  case h_1 => contradiction
  case h_2 | h_3 | h_4 =>
    obtain ⟨ending, foundStill⟩ := code?_extend found (by decide) tail
    refine ⟨ending.trans (List.suffix_cons _ _), ?_⟩
    simpa only [List.cons_append, read] using foundStill
  case h_5 | h_6 =>
    obtain ⟨ending, foundStill⟩ := propertyClass?_extend found tail
    refine ⟨ending.trans (List.suffix_cons _ _), ?_⟩
    simpa only [List.cons_append, read] using foundStill
  case h_9 =>
    obtain ⟨ending, foundStill⟩ := boundary?_extend noBrace found
    refine ⟨ending.trans (List.suffix_cons _ _), ?_⟩
    simpa only [List.cons_append, read] using foundStill
  case h_13 name more _ _ _ _ _ _ _ _ _ _ _ =>
    -- What the character stands for does not depend on what is behind it.
    simp only [List.cons_append, read]
    split at found
    · simp_all
    · split at found
      · simp_all
      · obtain ⟨character, named, same⟩ := Option.map_eq_some_iff.mp found
        simp_all
  all_goals simp_all [read]

end RecordFilter.Pattern.Escape
