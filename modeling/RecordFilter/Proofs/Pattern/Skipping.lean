import Mathlib.Data.List.Infix
import RecordFilter.Pattern.Escape
import RecordFilter.Proofs.Text.Span

/-!
What is skipped in an extended pattern, and what becomes of it when a closing parenthesis follows
the pattern: it is skipped just the same, unless a comment goes on to the parenthesis.
-/

namespace RecordFilter.Pattern

variable {flags : Flags} {whole text rest tail more grown : List Char}

/-- A text that does not begin with a character still does not with another behind it. -/
theorem ne_cons_append {first : Char} (absent : ∀ more, text ≠ first :: more)
    (tailAbsent : tail.head? ≠ some first) (more : List Char) : text ++ tail ≠ first :: more := by
  intro same
  cases text with
  -- With nothing in front of it, the tail would begin with the character.
  | nil => exact tailAbsent (by rw [← List.nil_append tail, same]; rfl)
  | cons character others => exact absent others (by rw [(List.cons.inj same).1])

/-- How what is left of a whole pattern grows with a closing parenthesis and more behind it. -/
inductive Grows (whole more : List Char) : List Char → List Char → Prop
  /-- What is behind the pattern is behind what is left of it. -/
  | kept (text : List Char) (part : text <:+ whole) : Grows whole more text (text ++ ')' :: more)
  /-- A comment that the pattern leaves open goes on to the end. -/
  | swallowed (comment : '#' ∈ whole) : Grows whole more [] []

/-- Whether a text behind a closing parenthesis neither ends a comment nor the name of a class. -/
def Quiet (more : List Char) : Prop :=
  '\n' ∉ more ∧ ':' ∉ more

namespace Grows

/-- What is left of a pattern is its end. -/
theorem part (grows : Grows whole more text grown) : text <:+ whole := by
  cases grows with
  | kept _ part => exact part
  | swallowed => exact List.nil_suffix

/-- What is left further on grows by the same text behind it. -/
theorem further (grows : Grows whole more text grown) (ending : rest <:+ text) :
    Grows whole more rest (rest ++ ')' :: more) :=
  .kept rest (ending.trans grows.part)

/-- What has nothing left before has all that was added, or nothing again after a comment. -/
theorem of_nil (grows : Grows whole more [] grown) :
    grown = ')' :: more ∨ grown = [] ∧ '#' ∈ whole := by
  cases grows with
  | kept => exact .inl rfl
  | swallowed comment => exact .inr ⟨rfl, comment⟩

/-- A text that is not empty keeps its first character. -/
theorem of_cons {first : Char} (grows : Grows whole more (first :: text) grown) :
    grown = first :: (text ++ ')' :: more) := by
  cases grows
  rfl

/-- Behind the first character of a text the rest of it grows. -/
theorem behind {first : Char} (grows : Grows whole more (first :: text) grown) :
    Grows whole more text (text ++ ')' :: more) :=
  grows.further (List.suffix_cons first text)

/-- A text that grows does not get a first character other than a closing parenthesis. -/
theorem ne_cons {first : Char} (grows : Grows whole more text grown)
    (absent : ∀ behind, text ≠ first :: behind) (other : first ≠ ')') (behind : List Char) :
    grown ≠ first :: behind := by
  -- What is added begins with a parenthesis, and a text that was swallowed with nothing.
  cases grows with
  | kept => exact ne_cons_append absent (by simpa using other.symm) behind
  | swallowed => nofun

end Grows

namespace Flags

/-- A comment that nothing ends takes the whole text. -/
theorem skip_comment (quiet : '\n' ∉ text) : skip.go true text = [] := by
  induction text with
  | nil => rfl
  | cons character rest ih =>
    rw [List.mem_cons, not_or] at quiet
    -- A character that ends no line leaves the comment open for the others.
    have goesOn : (character != '\n') = true := bne_iff_ne.mpr (Ne.symm quiet.1)
    rw [skip.go, goesOn, ih quiet.2]

/-- Skipping leaves an end of the text. -/
theorem go_suffix (inside : Bool) (text : List Char) : skip.go inside text <:+ text := by
  induction inside, text using skip.go.induct with
  | case1 => exact List.suffix_rfl
  | case2 character rest ih => exact ih.trans (List.suffix_cons character rest)
  | case3 character rest comment ih =>
    rw [skip.go, if_pos comment]
    exact ih.trans (List.suffix_cons character rest)
  | case4 character rest noComment blank ih =>
    rw [skip.go, if_neg noComment, if_pos blank]
    exact ih.trans (List.suffix_cons character rest)
  | case5 character rest noComment visible =>
    -- Here nothing is left out, and a text ends itself.
    rw [skip.go, if_neg noComment, if_neg visible]

/-- What is skipped stands in front of what is left. -/
theorem skip_suffix (flags : Flags) (text : List Char) : flags.skip text <:+ text := by
  unfold skip
  split
  · exact go_suffix false text
  · exact List.suffix_rfl

/-- Skipping makes a text no longer. -/
theorem length_skip_le (flags : Flags) (text : List Char) : (flags.skip text).length ≤ text.length :=
  (flags.skip_suffix text).length_le

/-- Skipping that stops somewhere stops there whatever stands behind the text. -/
theorem go_extend {inside : Bool} (remains : skip.go inside text ≠ []) :
    skip.go inside (text ++ tail) = skip.go inside text ++ tail := by
  induction inside, text using skip.go.induct with
  | case1 => exact absurd (by simp [skip.go]) remains
  -- Inside a comment every character is left out, up to the end of its line.
  | case2 character rest ih => exact ih remains
  | case3 character rest comment ih =>
    simp only [skip.go, comment, ↓reduceIte] at remains
    simpa [skip.go, comment] using ih remains
  | case4 character rest noComment blank ih =>
    simp only [skip.go, noComment, blank, ↓reduceIte] at remains
    simpa [skip.go, noComment, blank] using ih remains
  | case5 character rest noComment visible => simp [skip.go, noComment, visible]

/-- What is not skipped as a whole is skipped up to the same place. -/
theorem skip_extend (remains : flags.skip text ≠ []) :
    flags.skip (text ++ tail) = flags.skip text ++ tail := by
  unfold skip at remains ⊢
  split
  · rename_i extended
    rw [if_pos extended] at remains
    exact go_extend remains
  · rfl

/-- A text that is read on behind what is skipped is read on the same way in a longer text. -/
theorem skip_extend_cons {first : Char} (visible : flags.skip text = first :: rest) :
    flags.skip (text ++ tail) = first :: (rest ++ tail) := by
  -- A first character is left, so not all is skipped.
  have remains : flags.skip text ≠ [] := by simp [visible]
  rw [skip_extend remains, visible, List.cons_append]

/-- Skipping goes as far as before, or inside a comment to the end. -/
theorem go_grows (quiet : Quiet more) (inside : Bool) (part : text <:+ whole)
    (comment : inside = true → '#' ∈ whole) :
    Grows whole more (skip.go inside text) (skip.go inside (text ++ ')' :: more)) := by
  induction inside, text using skip.go.induct with
  | case1 inside =>
    cases inside with
    | true =>
      -- The parenthesis and what follows it belong to the comment.
      have swallows : '\n' ∉ ')' :: more := by simpa [Quiet] using quiet.1
      rw [List.nil_append, skip_comment swallows]
      exact .swallowed (comment rfl)
    | false => exact .kept [] part
  | case2 character rest ih =>
    exact ih ((List.suffix_cons character rest).trans part) fun _ => comment rfl
  | case3 character rest hash ih =>
    -- A comment begins here, and this is its sign.
    obtain rfl : character = '#' := beq_iff_eq.mp hash
    have sign : '#' ∈ whole := part.subset List.mem_cons_self
    simpa [skip.go] using ih ((List.suffix_cons '#' rest).trans part) fun _ => sign
  | case4 character rest noComment blank ih =>
    simpa [skip.go, noComment, blank] using
      ih ((List.suffix_cons character rest).trans part) fun inComment => by simp at inComment
  | case5 character rest noComment visible =>
    simpa [skip.go, noComment, visible] using Grows.kept (character :: rest) part

/-- What is left behind what is skipped grows as the text does. -/
theorem skip_grows (flags : Flags) (quiet : Quiet more) (grows : Grows whole more text grown) :
    Grows whole more (flags.skip text) (flags.skip grown) := by
  cases grows with
  | kept _ part =>
    unfold skip
    split
    · exact go_grows quiet false part fun inComment => by simp at inComment
    · exact .kept text part
  | swallowed comment =>
    have nothing : flags.skip [] = [] := by simp [skip, skip.go]
    rw [nothing]
    exact .swallowed comment

section Runs

variable {belongs : Char → Bool} {inside : Bool} {taken : List Char}

/-- A run of visible characters leaves an end of the text. -/
theorem takeVisible_suffix (run : flags.takeVisible belongs inside text = (taken, rest)) :
    rest <:+ text := by
  induction inside, text using takeVisible.induct flags belongs generalizing taken rest with
  | case1 => exact (Prod.mk.inj run).2 ▸ List.suffix_rfl
  | case2 character others ih => exact (ih run).trans (List.suffix_cons character others)
  | case3 character others member further after same ih =>
    rw [takeVisible, if_pos member, same] at run
    obtain ⟨rfl, rfl⟩ := Prod.mk.inj run
    exact (ih same).trans (List.suffix_cons character others)
  | case4 character others outside comment ih =>
    rw [takeVisible, if_neg outside, if_pos comment] at run
    exact (ih run).trans (List.suffix_cons character others)
  | case5 character others outside noComment blank ih =>
    rw [takeVisible, if_neg outside, if_neg noComment, if_pos blank] at run
    exact (ih run).trans (List.suffix_cons character others)
  | case6 character others outside noComment visible =>
    rw [takeVisible, if_neg outside, if_neg noComment, if_neg visible] at run
    exact (Prod.mk.inj run).2 ▸ List.suffix_rfl

/-- A run that another character ends is the same whatever stands behind the text. -/
theorem takeVisible_extend {next : Char}
    (run : flags.takeVisible belongs inside text = (taken, next :: rest)) :
    flags.takeVisible belongs inside (text ++ tail) = (taken, next :: (rest ++ tail)) := by
  induction inside, text using takeVisible.induct flags belongs generalizing taken with
  -- Nothing is left of an empty text that could end the run.
  | case1 => simp [takeVisible] at run
  | case2 character others ih => exact ih run
  | case3 character others member further after same ih =>
    rw [takeVisible, if_pos member, same] at run
    obtain ⟨rfl, rfl⟩ := Prod.mk.inj run
    rw [List.cons_append, takeVisible, if_pos member, ih same]
  | case4 character others outside comment ih =>
    rw [takeVisible, if_neg outside, if_pos comment] at run
    rw [List.cons_append, takeVisible, if_neg outside, if_pos comment, ih run]
  | case5 character others outside noComment blank ih =>
    rw [takeVisible, if_neg outside, if_neg noComment, if_pos blank] at run
    rw [List.cons_append, takeVisible, if_neg outside, if_neg noComment, if_pos blank, ih run]
  | case6 character others outside noComment visible =>
    rw [takeVisible, if_neg outside, if_neg noComment, if_neg visible] at run
    obtain ⟨rfl, same⟩ := Prod.mk.inj run
    obtain ⟨rfl, rfl⟩ := List.cons.inj same
    rw [List.cons_append, takeVisible, if_neg outside, if_neg noComment, if_neg visible]

/-- Inside a comment that nothing ends there is no run. -/
theorem takeVisible_comment (quiet : '\n' ∉ text) :
    flags.takeVisible belongs true text = ([], []) := by
  induction text with
  | nil => rfl
  | cons character rest ih =>
    rw [List.mem_cons, not_or] at quiet
    -- No character ends the line, so the comment goes on.
    have goesOn : (character != '\n') = true := bne_iff_ne.mpr (Ne.symm quiet.1)
    rw [takeVisible, goesOn, ih quiet.2]

/-- A run of a class without the parenthesis is the same with one behind the text. -/
theorem takeVisible_grows (quiet : Quiet more) (outside : belongs ')' = false)
    (part : text <:+ whole) (comment : inside = true → '#' ∈ whole)
    (run : flags.takeVisible belongs inside text = (taken, rest)) :
    ∃ beyond, flags.takeVisible belongs inside (text ++ ')' :: more) = (taken, beyond) ∧
      Grows whole more rest beyond := by
  induction inside, text using takeVisible.induct flags belongs generalizing taken rest with
  | case1 inside =>
    obtain ⟨rfl, rfl⟩ := Prod.mk.inj run
    cases inside with
    | true =>
      -- An open comment takes the parenthesis and what follows it.
      have swallows : '\n' ∉ ')' :: more := by simpa [Quiet] using quiet.1
      exact ⟨[], takeVisible_comment swallows, .swallowed (comment rfl)⟩
    | false =>
      have stops : flags.takeVisible belongs false (')' :: more) = ([], ')' :: more) := by
        have visible : Text.isBlank ')' = false := rfl
        simp [takeVisible, outside, visible]
      exact ⟨_, stops, .kept [] List.nil_suffix⟩
  | case2 character others ih =>
    exact ih ((List.suffix_cons character others).trans part) (fun _ => comment rfl) run
  | case3 character others member further after same ih =>
    rw [takeVisible, if_pos member, same] at run
    obtain ⟨rfl, rfl⟩ := Prod.mk.inj run
    obtain ⟨beyond, runStill, grows⟩ :=
      ih ((List.suffix_cons character others).trans part) (by simp) same
    refine ⟨beyond, ?_, grows⟩
    rw [List.cons_append, takeVisible, if_pos member, runStill]
  | case4 character others outside hash ih =>
    rw [takeVisible, if_neg outside, if_pos hash] at run
    -- A comment begins here, and this is its sign.
    obtain rfl : character = '#' := by simpa using (Bool.and_eq_true_iff.mp hash).2
    have sign : '#' ∈ whole := part.subset List.mem_cons_self
    obtain ⟨beyond, runStill, grows⟩ :=
      ih ((List.suffix_cons '#' others).trans part) (fun _ => sign) run
    refine ⟨beyond, ?_, grows⟩
    rw [List.cons_append, takeVisible, if_neg outside, if_pos hash, runStill]
  | case5 character others outside noComment blank ih =>
    rw [takeVisible, if_neg outside, if_neg noComment, if_pos blank] at run
    obtain ⟨beyond, runStill, grows⟩ :=
      ih ((List.suffix_cons character others).trans part) (by simp) run
    refine ⟨beyond, ?_, grows⟩
    rw [List.cons_append, takeVisible, if_neg outside, if_neg noComment, if_pos blank, runStill]
  -- A visible character of another kind ends the run, with or without more behind it.
  | case6 character others outside noComment visible =>
    rw [takeVisible, if_neg outside, if_neg noComment, if_neg visible] at run
    obtain ⟨rfl, rfl⟩ := Prod.mk.inj run
    refine ⟨_, ?_, .kept _ part⟩
    rw [List.cons_append, takeVisible, if_neg outside, if_neg noComment, if_neg visible]

end Runs

end Flags

end RecordFilter.Pattern
