import Mathlib
import RecordFilter.Proofs.Condition.Building
import RecordFilter.Proofs.Expression.Extension
import RecordFilter.Proofs.Expression.Operand
import RecordFilter.Session.Basic

/-! Two expressions with a connective between them are read as the groups of both, put together. -/

namespace RecordFilter

namespace Connective

/-- The doubled sign of a connective. -/
def sign : Connective → List Char
  | conjunction => ['&', '&']
  | disjunction => ['|', '|']

/-- The word of a connective in small letters. -/
def word : Connective → List Char
  | conjunction => ['a', 'n', 'd']
  | disjunction => ['o', 'r']

end Connective

/-- How a connective may be spelled between two expressions. -/
inductive Joins (connective : Connective) : List Char → Prop
  /-- A sign may have space around it. -/
  | sign {before after : List Char} (blank : OnlySpace before) (moreBlank : OnlySpace after) :
      Joins connective (before ++ (connective.sign ++ after))
  /-- A word, in letters of either case, must have space around it. -/
  | word {before letters after : List Char} (blank : OnlySpace before) (moreBlank : OnlySpace after)
      (someBefore : before ≠ []) (someAfter : after ≠ [])
      (same : letters.map Char.toLower = connective.word) :
      Joins connective (before ++ (letters ++ after))

/-- The groups on both sides of a connective: a conjunction makes one of the two that meet. -/
def joinGroups {α : Type} (connective : Connective) (left right : List (List α)) : List (List α) :=
  match connective with
  | .disjunction => left ++ right
  | .conjunction =>
    left.dropLast ++ (left.getLast?.getD [] ++ right.head?.getD []) :: right.tail

section Groups

variable {α : Type} {connective : Connective} {left right : List (List α)} {group : List α}

/-- Only the last group in front of a connective is changed by it. -/
theorem joinGroups_cons (some_ : left ≠ []) :
    joinGroups connective (group :: left) right = group :: joinGroups connective left right := by
  obtain ⟨first, rest, rfl⟩ := List.exists_cons_of_ne_nil some_
  cases connective <;> simp [joinGroups]

/-- A member in front of all others stays there. -/
theorem joinGroups_modifyHead (member : α) (some_ : left ≠ []) :
    joinGroups connective (left.modifyHead (member :: ·)) right =
      (joinGroups connective left right).modifyHead (member :: ·) := by
  obtain ⟨first, rest, rfl⟩ := List.exists_cons_of_ne_nil some_
  cases connective with
  | disjunction => rfl
  | conjunction =>
    -- The first group is changed at its end only if it is also the last.
    cases rest <;> simp [joinGroups]

/-- Groups that correspond to others still do when they are joined. -/
theorem joinGroups_forall₂ {β : Type} {relation : α → β → Prop} {moreLeft moreRight : List (List β)}
    (some_ : left ≠ []) (lefts : List.Forall₂ (List.Forall₂ relation) left moreLeft)
    (rights : List.Forall₂ (List.Forall₂ relation) right moreRight) :
    List.Forall₂ (List.Forall₂ relation) (joinGroups connective left right)
      (joinGroups connective moreLeft moreRight) := by
  -- The induction is on the groups in front, of which only the last one meets another.
  induction lefts with
  | nil => contradiction
  | @cons group other rest others same more ih =>
    cases more with
    | nil =>
      cases connective with
      | disjunction => exact .cons same rights
      | conjunction =>
        -- The two groups that meet correspond on both sides of the connective.
        cases rights with
        | nil => exact .cons (by simpa using same) .nil
        | cons first rest => exact .cons (List.rel_append same first) rest
    | @cons next nextOther behind behindOther _ _ =>
      rw [joinGroups_cons (List.cons_ne_nil next behind),
        joinGroups_cons (List.cons_ne_nil nextOther behindOther)]
      exact .cons same (ih (List.cons_ne_nil next behind))

end Groups

namespace Expression

variable {text rest tail : List Char} {connective : Connective}

/-- Clauses are cut into at least one group. -/
theorem grouped_ne_nil (first : WrittenClause) (others : List (Connective × WrittenClause)) :
    grouped first others ≠ [] := by
  intro none_
  have clauses := flatten_grouped first others
  rw [none_] at clauses
  contradiction

/-- A clause in conjunction with the next one joins its group. -/
theorem grouped_conjunction (first next : WrittenClause)
    (others : List (Connective × WrittenClause)) :
    grouped first ((.conjunction, next) :: others) =
      (grouped next others).modifyHead (first :: ·) := by
  obtain ⟨group, more, same⟩ := List.exists_cons_of_ne_nil (grouped_ne_nil next others)
  simp [grouped, same]

/-- No group is empty. -/
theorem grouped_inhabited (first : WrittenClause) (others : List (Connective × WrittenClause)) :
    ∀ group ∈ grouped first others, group ≠ [] := by
  induction others generalizing first with
  | nil => simp [grouped]
  | cons other rest ih =>
    obtain ⟨connective, next⟩ := other
    cases connective with
    | disjunction => simpa [grouped] using ih next
    | conjunction =>
      obtain ⟨group, more, same⟩ := List.exists_cons_of_ne_nil (grouped_ne_nil next rest)
      have inner := ih next
      rw [same] at inner
      rw [grouped_conjunction, same]
      simpa using (List.forall_mem_cons.mp inner).2

/-- Two rows of clauses with a connective between them are cut where each of them was. -/
theorem grouped_append (first next : WrittenClause)
    (others more : List (Connective × WrittenClause)) :
    grouped first (others ++ (connective, next) :: more) =
      joinGroups connective (grouped first others) (grouped next more) := by
  -- The induction is on the clauses in front; the ones behind only join the last group of those.
  induction others generalizing first with
  | nil =>
    cases connective with
    | disjunction => rfl
    | conjunction =>
      -- The clause in front of the connective heads the first group behind it.
      obtain ⟨group, behind, same⟩ := List.exists_cons_of_ne_nil (grouped_ne_nil next more)
      simp [grouped_conjunction, grouped, joinGroups, same]
  | cons other rest ih =>
    obtain ⟨inner, clause⟩ := other
    cases inner with
    | disjunction =>
      simp only [List.cons_append, grouped, ih]
      exact (joinGroups_cons (grouped_ne_nil clause rest)).symm
    | conjunction =>
      rw [List.cons_append, grouped_conjunction, grouped_conjunction, ih]
      exact (joinGroups_modifyHead first (grouped_ne_nil clause rest)).symm

/-- What further clauses leave but space, they leave for want of a connective. -/
theorem resumes_of_readFurther {fuel : Nat} {others : List (Connective × WrittenClause)}
    (read : readFurther fuel text = (others, rest)) (blank : OnlySpace rest) : Resumes text := by
  cases fuel with
  | zero => exact .inl ((Prod.mk.inj read).2 ▸ blank)
  | succ fuel =>
    rw [readFurther] at read
    split at read
    · exact .inl ((Prod.mk.inj read).2 ▸ blank)
    · rename_i connective after found
      exact .inr ⟨connective, after, found⟩

/-- Reading further takes up a call for each clause. -/
theorem length_le_of_readFurther {fuel : Nat} {others : List (Connective × WrittenClause)}
    (read : readFurther fuel text = (others, rest)) : others.length ≤ fuel := by
  induction fuel generalizing text others with
  | zero => simp [← (Prod.mk.inj read).1]
  | succ fuel ih =>
    rw [readFurther] at read
    split at read
    · simp [← (Prod.mk.inj read).1]
    · split at read
      · simp [← (Prod.mk.inj read).1]
      · rename_i clause afterClause _
        -- A clause was read, for which this call is counted.
        cases inner : readFurther fuel afterClause with
        | mk more behind =>
          rw [inner] at read
          obtain ⟨rfl, rfl⟩ := Prod.mk.inj read
          simpa using ih inner

/-- With more calls no more clauses are found where only space is left. -/
theorem readFurther_more {fuel more : Nat} {others : List (Connective × WrittenClause)}
    (read : readFurther fuel text = (others, rest)) (blank : OnlySpace rest) (enough : fuel ≤ more) :
    readFurther more text = (others, rest) := by
  induction fuel generalizing text others more with
  | zero =>
    obtain ⟨rfl, rfl⟩ := Prod.mk.inj read
    exact readFurther_space blank
  | succ fuel ih =>
    obtain ⟨calls, rfl⟩ := Nat.exists_eq_add_of_lt enough
    rw [readFurther] at read
    split at read
    · rename_i none_
      rw [readFurther, none_]
      exact read
    · rename_i connective after found
      split at read
      · rename_i none_
        simp only [readFurther, found, none_]
        exact read
      · rename_i clause afterClause clauseFound
        cases inner : readFurther fuel afterClause with
        | mk others behind =>
          rw [inner] at read
          obtain ⟨rfl, rfl⟩ := Prod.mk.inj read
          have innerMore := ih inner (Nat.le_add_right fuel calls)
          -- The clause is found as before, and behind it the calls
          -- that are left are more than enough.
          simp only [readFurther, found, clauseFound, innerMore]

/-- Further clauses are read as they were, and then those that follow the seam. -/
theorem readFurther_extend {fuel : Nat} {others : List (Connective × WrittenClause)}
    (read : readFurther fuel text = (others, rest)) (blank : OnlySpace rest) (seam : Seam tail)
    (calls : Nat) :
    readFurther (others.length + calls) (text ++ tail) =
      (others ++ (readFurther calls (rest ++ tail)).1, (readFurther calls (rest ++ tail)).2) := by
  -- The induction is on the calls of the first reading; the new
  -- one needs one for each clause of it.
  induction fuel generalizing text others with
  | zero =>
    obtain ⟨rfl, rfl⟩ := Prod.mk.inj read
    simp
  | succ fuel ih =>
    rw [readFurther] at read
    split at read
    · obtain ⟨rfl, rfl⟩ := Prod.mk.inj read
      simp
    · rename_i connective after found
      split at read
      · obtain ⟨rfl, rfl⟩ := Prod.mk.inj read
        simp
      · rename_i clause afterClause clauseFound
        cases inner : readFurther fuel afterClause with
        | mk more behind =>
          rw [inner] at read
          obtain ⟨rfl, rfl⟩ := Prod.mk.inj read
          -- The connective and the clause are read as they were, and the rest by induction.
          have someConnective := ne_nil_of_read found rfl
          have someClause := ne_nil_of_read clauseFound rfl
          have clauseStill := readClause_extend clauseFound (resumes_of_readFurther inner blank) seam
          rw [List.length_cons, Nat.add_right_comm, readFurther, skipSpace_extend someConnective,
            readConnective_extend found seam.ends]
          simp only [skipSpace_extend someClause, clauseStill, ih inner, List.cons_append]

/-- A key that is read is a text in quotation marks, or a word, at the start of the text. -/
theorem readKey_parts {key : WrittenKey} (found : readKey text = some (key, rest)) :
    (∃ inner, text = '"' :: inner ++ rest ∧ key = .quoted ('"' :: inner)) ∨
      ∃ word, text = word ++ rest ∧ key = .bare word ∧ word ≠ [] ∧
        ∀ character ∈ word, isWordCharacter character = true := by
  unfold readKey at found
  split at found
  · obtain ⟨after, skipped, same⟩ := Option.map_eq_some_iff.mp found
    obtain ⟨rfl, rfl⟩ := Prod.mk.inj same
    obtain ⟨inner, rfl⟩ := skipQuoted_suffix skipped
    -- The mark in front belongs to what was taken.
    have all : taken (('"' :: inner) ++ after) after = '"' :: inner := taken_append
    rw [List.cons_append] at all
    exact .inl ⟨inner, rfl, by rw [all]⟩
  · cases spanned : text.span isWordCharacter with
    | mk word after =>
      obtain ⟨rfl, all, -⟩ := span_parts spanned
      simp only [spanned] at found
      split at found
      · contradiction
      · rename_i some_
        obtain ⟨rfl, rfl⟩ := Prod.mk.inj (Option.some.inj found)
        exact .inr ⟨word, rfl, rfl, by simpa using some_, all⟩

/-- An operator that is read is a token at the start of the text. -/
theorem readOperator_parts {operator : List Char} (found : readOperator text = some (operator, rest)) :
    text = operator ++ rest ∧ IsToken operator := by
  cases signsSpanned : text.span isSign with
  | mk signs afterSigns =>
    cases lettersSpanned : text.span Char.isAlpha with
    | mk letters afterLetters =>
      obtain ⟨signsParts, signsAll, -⟩ := span_parts signsSpanned
      obtain ⟨lettersParts, lettersAll, -⟩ := span_parts lettersSpanned
      -- Signs are preferred, and letters count only without any.
      simp only [readOperator, signsSpanned, lettersSpanned] at found
      split at found
      · split at found
        · contradiction
        · rename_i someLetters
          obtain ⟨rfl, rfl⟩ := Prod.mk.inj (Option.some.inj found)
          exact ⟨lettersParts, by simpa using someLetters, .inr lettersAll⟩
      · rename_i someSigns
        obtain ⟨rfl, rfl⟩ := Prod.mk.inj (Option.some.inj found)
        exact ⟨signsParts, by simpa using someSigns, .inl signsAll⟩

/-- A clause that is read is a key, an operator behind space, and a
literal behind space if there is one. -/
theorem readClause_parts {clause : WrittenClause} (found : readClause text = some (clause, rest)) :
    ∃ afterKey afterOperator, readKey text = some (clause.key, afterKey) ∧
      readOperator (skipSpace afterKey) = some (clause.operator, afterOperator) ∧
      ((∃ literal, clause.operand = some literal ∧
          readLiteral (skipSpace afterOperator) = some (literal, rest)) ∨
        clause.operand = none ∧ rest = afterOperator) := by
  obtain ⟨⟨key, afterKey⟩, keyFound, found⟩ := Option.bind_eq_some_iff.mp found
  obtain ⟨⟨operator, afterOperator⟩, operatorFound, found⟩ := Option.map_eq_some_iff.mp found
  simp only at found
  split at found
  · rename_i literal after literalFound
    obtain ⟨rfl, rfl⟩ := Prod.mk.inj found
    exact ⟨afterKey, afterOperator, keyFound, operatorFound, .inl ⟨literal, rfl, literalFound⟩⟩
  · obtain ⟨rfl, rfl⟩ := Prod.mk.inj found
    exact ⟨afterKey, afterOperator, keyFound, operatorFound, .inr ⟨rfl, rfl⟩⟩

/-- What is left behind a clause is the end of the text. -/
theorem readClause_suffix {clause : WrittenClause} (found : readClause text = some (clause, rest)) :
    rest <:+ text := by
  obtain ⟨afterKey, afterOperator, keyFound, operatorFound, operandFound⟩ := readClause_parts found
  -- A key, an operator and an operand each leave an end of what was left to them.
  have keySuffix : afterKey <:+ text := by
    rcases readKey_parts keyFound with ⟨inner, parts, -⟩ | ⟨word, parts, -⟩
    · exact ⟨'"' :: inner, parts.symm⟩
    · exact ⟨word, parts.symm⟩
  have operatorSuffix : afterOperator <:+ skipSpace afterKey :=
    ⟨clause.operator, (readOperator_parts operatorFound).1.symm⟩
  have clauseSuffix : rest <:+ afterOperator := by
    rcases operandFound with ⟨literal, -, literalFound⟩ | ⟨-, rfl⟩
    · exact List.IsSuffix.trans ⟨literal, (readLiteral_parts literalFound).symm⟩ skipSpace_suffix
    · exact List.suffix_refl _
  exact ((clauseSuffix.trans operatorSuffix).trans skipSpace_suffix).trans keySuffix

/-- A word in letters of either case is skipped where no word goes on. -/
theorem skipWordAnyCase_append {word letters : List Char} (same : letters.map Char.toLower = word)
    (ends : Leaves isWordCharacter rest) : skipWordAnyCase word (letters ++ rest) = some rest := by
  have length : word.length = letters.length := by rw [← same, List.length_map]
  simp only [skipWordAnyCase, length, List.take_left, List.drop_left, same, beq_self_eq_true,
    continuesWord_eq_false_iff.mpr ends, Bool.not_false, Bool.and_self, if_true]

/-- A connective is read where it stands as a word. -/
theorem readConnective_letters {letters : List Char}
    (same : letters.map Char.toLower = connective.word) (ends : Leaves isWordCharacter rest) :
    readConnective (letters ++ rest) = some (connective, rest) := by
  have skipped := skipWordAnyCase_append same ends
  cases letters with
  | nil => cases connective <;> simp [Connective.word] at same
  | cons first more =>
    -- The words begin with different letters, and neither with a sign.
    have noAnd : first ≠ '&' := by
      rintro rfl
      cases connective <;> exact absurd (List.cons.inj same).1 (by decide)
    have noOr : first ≠ '|' := by
      rintro rfl
      cases connective <;> exact absurd (List.cons.inj same).1 (by decide)
    rw [List.cons_append] at skipped ⊢
    rw [readConnective_word noAnd noOr]
    cases connective with
    | conjunction =>
      rw [Connective.word] at skipped
      rw [skipped]
    | disjunction =>
      rw [Connective.word] at skipped same
      rw [skipped]
      cases other : skipWordAnyCase ['a', 'n', 'd'] (first :: (more ++ rest)) with
      | none => rfl
      | some _ =>
        obtain ⟨_, _, equal, small⟩ := opensConnective_of_any other
        rw [← (List.cons.inj equal).1, (List.cons.inj same).1] at small
        exact absurd small (by decide)

end Expression

namespace Joins

open Expression

variable {connective : Connective} {between : List Char}

/-- No space goes on with a clause. -/
theorem visible_continuesClause : Visible continuesClause :=
  visible_of_excluded (by decide)

/-- A connective is read in any of its spellings, and leaves at most
space in front of what follows. -/
theorem readConnective (joins : Joins connective between) (right : List Char) :
    ∃ after, OnlySpace after ∧
      Expression.readConnective (skipSpace (between ++ right)) = some (connective, after ++ right) := by
  cases joins with
  | @sign before after blank moreBlank =>
    refine ⟨after, moreBlank, ?_⟩
    rw [List.append_assoc, skipSpace_append blank]
    cases connective <;> rfl
  | @word before letters after blank moreBlank _ someAfter same =>
    refine ⟨after, moreBlank, ?_⟩
    -- A space ends the word, and its first letter is none.
    have ends : Leaves isWordCharacter (after ++ right) :=
      leaves_someSpace (visible_of_excluded (by decide)) moreBlank someAfter
    have found := readConnective_letters same ends
    rw [List.append_assoc, skipSpace_append blank, List.append_assoc, skipSpace_of_leaves, found]
    cases letters with
    | nil => cases connective <;> simp [Connective.word] at same
    | cons first rest =>
      refine leaves_cons.mpr ?_
      cases space : isSpace first with
      | false => rfl
      | true =>
        -- No space is a letter of a connective in either case.
        simp only [isSpace, Bool.or_eq_true, beq_iff_eq] at space
        rcases space with ((rfl | rfl) | rfl) | rfl <;> cases connective <;>
          exact absurd (List.cons.inj same).1 (by decide)

/-- A connective in any of its spellings may be joined to an expression. -/
theorem seam (joins : Joins connective between) (right : List Char) :
    Seam (between ++ right) := by
  obtain ⟨after, _, found⟩ := joins.readConnective right
  refine ⟨?_, _, _, found⟩
  cases joins with
  | @sign before after blank moreBlank =>
    rw [List.append_assoc]
    refine leaves_space visible_continuesClause blank ?_
    cases connective <;> exact leaves_cons.mpr rfl
  | word blank _ someBefore =>
    rw [List.append_assoc]
    exact leaves_someSpace visible_continuesClause blank someBefore

/-- A connective takes at least one character. -/
theorem length_pos (joins : Joins connective between) : 0 < between.length := by
  refine List.length_pos_iff.mpr ?_
  cases joins with
  | sign => cases connective <;> simp [Connective.sign]
  | word _ _ someBefore => simp [someBefore]

end Joins

namespace Expression

variable {text left between right : List Char} {groups leftGroups rightGroups : List (List WrittenClause)}
  {connective : Connective}

/-- A text that is not just space is read as a first clause and further
ones, behind which is only space. -/
theorem readGroups_eq_some_iff (visible : ¬OnlySpace text) :
    readGroups text = some groups ↔
      ∃ first afterFirst others rest, readClause (skipSpace text) = some (first, afterFirst) ∧
        readFurther afterFirst.length afterFirst = (others, rest) ∧ OnlySpace rest ∧
        groups = grouped first others := by
  have some_ : skipSpace text ≠ [] := fun none_ => visible (skipSpace_eq_nil_iff.mp none_)
  rw [readGroups]
  cases clause : readClause (skipSpace text) with
  | none => simp [some_]
  | some found =>
    obtain ⟨first, afterFirst⟩ := found
    simp only
    cases further : readFurther afterFirst.length afterFirst with
    | mk others rest =>
      simp only
      constructor
      · intro read
        split at read
        · rename_i ended
          have blank := skipSpace_eq_nil_iff.mp (List.isEmpty_iff.mp ended)
          exact ⟨first, afterFirst, others, rest, rfl, further, blank, (Option.some.inj read).symm⟩
        · contradiction
      · rintro ⟨_, _, _, _, same, sameFurther, blank, rfl⟩
        obtain ⟨rfl, rfl⟩ := Prod.mk.inj (Option.some.inj same)
        obtain ⟨rfl, rfl⟩ := Prod.mk.inj (further.symm.trans sameFurther)
        rw [if_pos (List.isEmpty_iff.mpr (skipSpace_eq_nil_iff.mpr blank))]

/-- Two texts with a connective between them are read as the groups of both, put together. -/
theorem readGroups_join (joins : Joins connective between) (leftVisible : ¬OnlySpace left)
    (rightVisible : ¬OnlySpace right) (leftRead : readGroups left = some leftGroups)
    (rightRead : readGroups right = some rightGroups) :
    readGroups (left ++ (between ++ right)) =
      some (joinGroups connective leftGroups rightGroups) := by
  obtain ⟨first, afterFirst, others, rest, firstFound, further, blank, rfl⟩ :=
    (readGroups_eq_some_iff leftVisible).mp leftRead
  obtain ⟨next, afterNext, more, behind, nextFound, moreFurther, moreBlank, rfl⟩ :=
    (readGroups_eq_some_iff rightVisible).mp rightRead
  have wholeVisible : ¬OnlySpace (left ++ (between ++ right)) := fun blank =>
    leftVisible fun character inside => blank character (List.mem_append_left _ inside)
  refine (readGroups_eq_some_iff wholeVisible).mpr ⟨first, afterFirst ++ (between ++ right),
    others ++ (connective, next) :: more, behind, ?_, ?_, moreBlank, (grouped_append ..).symm⟩
  · -- The first clause of the left text is read as it was.
    have some_ : skipSpace left ≠ [] := fun none_ => leftVisible (skipSpace_eq_nil_iff.mp none_)
    rw [skipSpace_extend some_]
    exact readClause_extend firstFound (resumes_of_readFurther further blank) (joins.seam right)
  · -- Behind the clauses of the left text the connective is read, and then the right text.
    obtain ⟨after, afterBlank, connected⟩ := joins.readConnective right
    have fewer := length_le_of_readFurther further
    have shorter := ((readClause_suffix nextFound).trans skipSpace_suffix).length_le
    have positive := joins.length_pos
    -- There are calls enough, since each character pays for one.
    obtain ⟨calls, budget⟩ : ∃ calls, (afterFirst ++ (between ++ right)).length =
        others.length + (calls + 1) ∧ afterNext.length ≤ calls := by
      refine ⟨(afterFirst ++ (between ++ right)).length - others.length - 1, ?_⟩
      simp only [List.length_append]
      omega
    have seamRead : readFurther (calls + 1) (rest ++ (between ++ right)) =
        ((connective, next) :: more, behind) := by
      rw [readFurther, skipSpace_append blank, connected]
      simp only [skipSpace_append afterBlank, nextFound,
        readFurther_more moreFurther moreBlank budget.2]
    rw [budget.1, readFurther_extend further blank (joins.seam right), seamRead]

end Expression

/-- Where no group of clauses is empty, no group of conditions is. -/
theorem WrittenClause.Denote.inhabited {groups : List (List WrittenClause)}
    {conditions : List ConditionGroup} (denote : Denote groups conditions)
    (inhabited : ∀ group ∈ groups, group ≠ []) : ∀ group ∈ conditions, group ≠ [] := by
  unfold Denote at denote
  induction denote with
  | nil => simp
  | cons same _ ih =>
    obtain ⟨some_, others⟩ := List.forall_mem_cons.mp inhabited
    refine List.forall_mem_cons.mpr ⟨?_, ih others⟩
    rintro rfl
    exact some_ (List.forall₂_nil_right_iff.mp same)

namespace ConditionSet

variable {left right between : List Char} {leftSet rightSet : ConditionSet} {connective : Connective}

/-- A text that is not just space is read as at least one group, and no group is empty. -/
theorem parse_inhabited (visible : ¬OnlySpace left) (read : parse left = .ok leftSet) :
    leftSet.groups ≠ [] ∧ ∀ group ∈ leftSet.groups, group ≠ [] := by
  obtain ⟨groups, found, denote⟩ := parse_eq_ok_iff.mp read
  obtain ⟨first, _, others, _, _, _, _, rfl⟩ :=
    (Expression.readGroups_eq_some_iff visible).mp found
  refine ⟨?_, denote.inhabited (Expression.grouped_inhabited first others)⟩
  intro none_
  rw [none_] at denote
  exact Expression.grouped_ne_nil first others (List.forall₂_nil_right_iff.mp denote)

/-- A new session takes two sets over as if a conjunction stood between them. -/
theorem whereSet_whereSet (document : Document) (leftSome : leftSet.groups ≠ [])
    (leftInhabited : ∀ group ∈ leftSet.groups, group ≠ []) (rightSome : rightSet.groups ≠ [])
    (rightInhabited : ∀ group ∈ rightSet.groups, group ≠ []) :
    (((Session.ofDocument document).whereSet leftSet).whereSet rightSet).conditions =
      ⟨joinGroups .conjunction leftSet.groups rightSet.groups⟩ := by
  obtain ⟨lefts⟩ := leftSet
  obtain ⟨rights⟩ := rightSet
  obtain ⟨first, rest, rfl⟩ := List.exists_cons_of_ne_nil rightSome
  -- The first set becomes the builder, whose last group the second one meets.
  have taken : (Session.ofDocument document).builder.splice ⟨lefts⟩ =
      ConditionBuilder.ofGroups lefts := ConditionBuilder.splice_ofGroups_nil leftInhabited
  have spliced : (ConditionBuilder.ofGroups lefts).splice ⟨first :: rest⟩ =
      ConditionBuilder.ofGroups (joinGroups .conjunction lefts (first :: rest)) := by
    obtain ⟨front, last, rfl⟩ := (List.eq_nil_or_concat' lefts).resolve_left leftSome
    have others : rest.filter (fun group => !group.isEmpty) = rest := by
      simpa using (List.forall_mem_cons.mp rightInhabited).2
    rw [ConditionBuilder.splice_ofGroups]
    simp [ConditionBuilder.spliced, ConditionBuilder.joinLast_append, joinGroups, others]
  simp only [Session.conditions, Session.whereSet, Session.chain, taken, spliced]
  rfl

/--
Two expressions with a connective between them, in any of its spellings, are an expression of the
groups of both. A disjunction puts them one behind the other, and a conjunction makes one group of
the two that meet. The latter is what a new session makes of both sets, spliced one after the other.
-/
theorem parse_join (joins : Joins connective between) (leftVisible : ¬OnlySpace left)
    (rightVisible : ¬OnlySpace right) (leftRead : parse left = .ok leftSet)
    (rightRead : parse right = .ok rightSet) :
    parse (left ++ (between ++ right)) =
        .ok ⟨joinGroups connective leftSet.groups rightSet.groups⟩ ∧
      ∀ document, (((Session.ofDocument document).whereSet leftSet).whereSet rightSet).conditions =
        ⟨joinGroups .conjunction leftSet.groups rightSet.groups⟩ := by
  obtain ⟨leftGroups, leftFound, leftDenote⟩ := parse_eq_ok_iff.mp leftRead
  obtain ⟨rightGroups, rightFound, rightDenote⟩ := parse_eq_ok_iff.mp rightRead
  obtain ⟨leftSome, leftInhabited⟩ := parse_inhabited leftVisible leftRead
  obtain ⟨rightSome, rightInhabited⟩ := parse_inhabited rightVisible rightRead
  -- The second part is about sets alone, so only the reading of the texts is left.
  refine ⟨?_, fun document =>
    whereSet_whereSet document leftSome leftInhabited rightSome rightInhabited⟩
  -- The clauses are put together first, and what they denote is put together likewise.
  have read := Expression.readGroups_join joins leftVisible rightVisible leftFound rightFound
  refine parse_eq_ok_iff.mpr ⟨_, read, joinGroups_forall₂ ?_ leftDenote rightDenote⟩
  rintro rfl
  exact leftSome (List.forall₂_nil_left_iff.mp leftDenote)

/-- A connective is not mistaken for the words around it that look like one. -/
theorem parse_join_lookalikes :
    parse ("x and".toList ++ ("\toR\n".toList ++ "or = [\"and\"]&&null or".toList)) =
        .ok ⟨[[⟨"x", "and", .null⟩],
          [⟨"or", "=", .array [.string "and"]⟩, ⟨"null", "or", .null⟩]]⟩ ∧
      (((Session.ofValue .null).whereSet ⟨[[⟨"x", "and", .null⟩]]⟩).whereSet
          ⟨[[⟨"or", "=", .array [.string "and"]⟩, ⟨"null", "or", .null⟩]]⟩).conditions =
        ⟨[[⟨"x", "and", .null⟩, ⟨"or", "=", .array [.string "and"]⟩, ⟨"null", "or", .null⟩]]⟩ := by
  have tab : OnlySpace "\t".toList := by simp [OnlySpace, isSpace]
  have newline : OnlySpace "\n".toList := by simp [OnlySpace, isSpace]
  have joins : Joins .disjunction "\toR\n".toList :=
    Joins.word tab newline (by decide) (by decide) (show "oR".toList.map Char.toLower = _ by decide)
  have left : parse "x and".toList = .ok ⟨[[⟨"x", "and", .null⟩]]⟩ := by cbv
  have right : parse "or = [\"and\"]&&null or".toList =
      .ok ⟨[[⟨"or", "=", .array [.string "and"]⟩, ⟨"null", "or", .null⟩]]⟩ := by cbv
  have leftVisible : ¬OnlySpace "x and".toList := fun blank =>
    absurd (blank 'x' (by decide)) (by decide)
  have rightVisible : ¬OnlySpace "or = [\"and\"]&&null or".toList := fun blank =>
    absurd (blank 'o' (by decide)) (by decide)
  obtain ⟨parsed, spliced⟩ := parse_join joins leftVisible rightVisible left right
  exact ⟨parsed, spliced (Document.ofValue .null)⟩

end ConditionSet

end RecordFilter
