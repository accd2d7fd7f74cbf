import RecordFilter.Proofs.Expression.Connection
import RecordFilter.Proofs.Expression.Literals

/-! The tree that the grammar leaves of a text shows the groups of clauses that the reader finds. -/

namespace RecordFilter

open Expression

/-- The node of a key. -/
def WrittenKey.node : WrittenKey → Pair
  | bare name => ⟨.identifier, name, []⟩
  | quoted text => ⟨.string, text, []⟩

/-- A quoted key begins with its mark. -/
def WrittenKey.Marked : WrittenKey → Prop
  | bare _ => True
  | quoted text => ∃ more, text = '"' :: more

/-- The rule of a connective. -/
def Connective.rule : Connective → Rule
  | conjunction => .andWord
  | disjunction => .orWord

namespace Expression

variable {whole text rest : List Char}

section Parts

/-- A silent rule does what its body does. -/
theorem Runs.call_silent {atomic : Bool} {rule : Rule} {outcome : Outcome}
    (kind : rule.kind = .silent) (runs : Runs whole atomic rule.body text outcome) :
    Runs whole atomic (.call rule) text outcome := by
  have same : (atomic || decide (rule.kind = .atomic)) = atomic := by simp [kind]
  have called := Runs.call (same.symm ▸ runs)
  have transparent : rule.enclose atomic text = id := by
    funext ⟨rest, nodes⟩
    simp [Rule.enclose, kind]
  rwa [transparent, Option.map_id] at called

/-- The second of two alternatives gives the outcome where the first fails. -/
theorem Runs.either_or {atomic : Bool} {first second : Peg} {outcome other : Outcome}
    (runs : Runs whole atomic first text outcome) (runsToo : Runs whole atomic second text other) :
    Runs whole atomic (.either first second) text (outcome.or other) := by
  cases outcome with
  | none => exact .eitherSecond runs runsToo
  | some result => exact .eitherFirst runs

/-- A class is taken as far as its run goes. -/
theorem skipSome_of_span {belongs : Char → Bool} {run : List Char}
    (found : text.span belongs = (run, rest)) :
    skipSome belongs text = if run.isEmpty then none else some rest := by
  rw [skipSome, found]

/-- What follows a run of a class was taken off with just the run. -/
theorem taken_of_span {belongs : Char → Bool} {run : List Char}
    (found : text.span belongs = (run, rest)) : taken text rest = run := by
  obtain ⟨rfl, _⟩ := span_parts found
  exact taken_append

/-- A key is what its reader takes. -/
theorem runs_key (whole text : List Char) :
    Runs whole false (.call .key) text
      ((readKey text).map fun (key, rest) => (rest, [key.node])) := by
  refine Runs.call_silent rfl ?_
  have string : Runs whole false (.call .string) text _ := .ofSkips rfl skips_string text
  have runs := string.either_or (.ofSkips rfl skips_identifier text)
  unfold readKey
  split
  case h_1 rest =>
    -- The quotation mark is no character of a key without any.
    have noName : skipSome isWordCharacter ('"' :: rest) = none :=
      skipSome_of_span (span_of_leaves (leaves_cons.mpr (by decide)))
    rw [skipString, skipOne_self, Option.bind_some, noName, Option.map_none, Option.or_none] at runs
    rw [Option.map_map]
    exact runs
  case h_2 unquoted =>
    cases found : text.span isWordCharacter with
    | mk name after =>
      rw [skipString, skipOne_eq_none unquoted, Option.bind_none, Option.map_none, Option.none_or,
        skipSome_of_span found] at runs
      -- A run of no characters is no key, for both of them.
      simp only
      split at runs
      · rename_i none_
        rw [if_pos none_]
        exact runs
      · rename_i some_
        rw [if_neg some_]
        rw [Option.map_some, taken_of_span found] at runs
        exact runs

/-- The reader takes the mark of a quoted key with it. -/
theorem marked_of_readKey {key : WrittenKey} (found : readKey text = some (key, rest)) :
    key.Marked := by
  unfold readKey at found
  split at found
  · rename_i inner
    obtain ⟨after, skipped, same⟩ := Option.map_eq_some_iff.mp found
    obtain ⟨rfl, rfl⟩ := Prod.mk.inj same
    -- What was taken ends behind the mark, so the mark is part of it.
    obtain ⟨front, rfl⟩ := skipQuoted_suffix skipped
    have all : taken (('"' :: front) ++ after) after = '"' :: front := taken_append
    exact ⟨front, all⟩
  · simp only at found
    split at found
    · contradiction
    · obtain ⟨rfl, rfl⟩ := Prod.mk.inj (Option.some.inj found)
      trivial

/-- An operator is what its reader takes. -/
theorem runs_operator (whole text : List Char) :
    Runs whole false (.call .operator) text
      ((readOperator text).map fun (operator, rest) => (rest, [⟨.operator, operator, []⟩])) := by
  have runs : Runs whole false (.call .operator) text _ := .ofSkips rfl skips_operator text
  unfold readOperator
  -- Both runs are taken from the start, so the grammar can prefer one as the reader does.
  cases signsFound : text.span isSign with
  | mk signs afterSigns =>
    cases lettersFound : text.span Char.isAlpha with
    | mk letters afterLetters =>
      rw [skipSome_of_span signsFound, skipSome_of_span lettersFound] at runs
      simp only
      -- Letters count only where no sign stands.
      split at runs
      · rename_i noSigns
        rw [if_pos noSigns]
        rw [Option.none_or] at runs
        split at runs
        · rename_i noLetters
          rw [if_pos noLetters]
          exact runs
        · rename_i someLetters
          rw [if_neg someLetters]
          rw [Option.map_some, taken_of_span lettersFound] at runs
          exact runs
      · rename_i someSigns
        rw [if_neg someSigns]
        rw [Option.some_or, Option.map_some, taken_of_span signsFound] at runs
        exact runs

/-- A literal is what its reader takes. -/
theorem runs_literal (whole text : List Char) :
    ∃ inner, Runs whole false (.call .literal) text
      ((readLiteral text).map fun (literal, rest) => (rest, [⟨.literal, literal, inner⟩])) := by
  obtain ⟨inner, runs⟩ := (ends_literal (3 * text.length + 3) (Nat.le_refl _)).call_node rfl
  refine ⟨inner, ?_⟩
  rw [readLiteral, Option.map_map]
  exact runs

end Parts

section Connectives

variable {connective : Connective}

/-- What follows a connective of one kind. -/
def skipConnective (connective : Connective) (text : List Char) : Option (List Char) :=
  (readConnective text).bind fun (found, rest) => if found = connective then some rest else none

/-- Characters are taken where they stand. -/
theorem skip_word_append {letters : List Char} :
    Terminal.skip whole (.word letters) (letters ++ rest) = some rest := by
  have found : letters.isPrefixOf (letters ++ rest) = true := List.isPrefixOf_iff_prefix.mpr ⟨rest, rfl⟩
  simp [Terminal.skip, found]

/-- Characters are not taken where they do not stand. -/
theorem skip_word_eq_none {letters : List Char} (absent : ∀ rest, text ≠ letters ++ rest) :
    Terminal.skip whole (.word letters) text = none := by
  refine if_neg fun found => ?_
  obtain ⟨rest, same⟩ := List.isPrefixOf_iff_prefix.mp found
  exact absent rest same.symm

/-- A word is not taken where another letter stands. -/
theorem skipWordAnyCase_of_ne {letter first : Char} {word : List Char}
    (differs : letter.toLower ≠ first) : skipWordAnyCase (first :: word) (letter :: rest) = none := by
  cases skipped : skipWordAnyCase (first :: word) (letter :: rest) with
  | none => rfl
  | some _ =>
    obtain ⟨_, _, same, small⟩ := opensConnective_of_any skipped
    exact absurd ((List.cons.inj same).1 ▸ small) differs

/-- No text holds both words of connectives at its start. -/
theorem skipWordAnyCase_or_eq_none {after : List Char}
    (skipped : skipWordAnyCase ['a', 'n', 'd'] text = some after) :
    skipWordAnyCase ['o', 'r'] text = none := by
  obtain ⟨letter, more, rfl, small⟩ := opensConnective_of_any skipped
  exact skipWordAnyCase_of_ne (small ▸ by decide)

/-- A connective is its sign or its word, with the end of the word behind it. -/
theorem skipConnective_eq_or :
    skipConnective connective text =
      (Terminal.skip whole (.word connective.sign) text).or (skipWordAnyCase connective.word text) := by
  -- Each case of the reader is matched against both kinds of connectives.
  unfold skipConnective readConnective
  split
  case h_1 rest =>
    cases connective with
    | conjunction =>
      have sign : Terminal.skip whole (.word ['&', '&']) (['&', '&'] ++ rest) = some rest :=
        skip_word_append
      exact (congrArg (Option.or · _) sign).symm
    | disjunction =>
      -- The sign of the one connective is neither sign nor word of the other.
      rw [skip_word_eq_none (by simp [Connective.sign]), Connective.word,
        skipWordAnyCase_of_ne (by decide)]
      rfl
  case h_2 rest =>
    cases connective with
    | conjunction =>
      rw [skip_word_eq_none (by simp [Connective.sign]), Connective.word,
        skipWordAnyCase_of_ne (by decide)]
      rfl
    | disjunction =>
      have sign : Terminal.skip whole (.word ['|', '|']) (['|', '|'] ++ rest) = some rest :=
        skip_word_append
      exact (congrArg (Option.or · _) sign).symm
  case h_3 noAnd noOr =>
    -- Without a sign it must be a word, and no text begins with both.
    have noSign : ∀ rest, text ≠ connective.sign ++ rest := by
      cases connective
      · exact noAnd
      · exact noOr
    rw [skip_word_eq_none noSign, Option.none_or]
    cases andFound : skipWordAnyCase ['a', 'n', 'd'] text with
    | some after =>
      cases connective with
      | conjunction => exact andFound.symm
      | disjunction => exact (skipWordAnyCase_or_eq_none andFound).symm
    | none =>
      cases connective with
      | conjunction =>
        rw [Connective.word, andFound]
        cases skipWordAnyCase ['o', 'r'] text <;> rfl
      | disjunction =>
        rw [Connective.word]
        cases skipWordAnyCase ['o', 'r'] text <;> rfl

/-- A connective is what its reader takes. -/
theorem runs_connective (whole : List Char) (connective : Connective) (text : List Char) :
    Runs whole false (.call connective.rule) text
      ((skipConnective connective text).map fun rest =>
        (rest, [⟨connective.rule, taken text rest, []⟩])) := by
  have either : Skips whole (.either (.word connective.sign)
      (.both (.terminal (.anyCase connective.word)) .wordEnd)) (skipConnective connective) :=
    (Skips.terminal.either skips_anyCase).congr fun _ => skipConnective_eq_or.symm
  -- Both connectives have a body of this form.
  have skips : Skips whole connective.rule.body (skipConnective connective) := by
    cases connective <;> exact either
  exact .ofSkips (by cases connective <;> rfl) skips text

end Connectives

/-- The node of a clause shows its parts. -/
inductive Shows : Pair → WrittenClause → Prop
  /-- A clause without an operand has a key and an operator. -/
  | alone {text : List Char} {key : WrittenKey} {operator : List Char} (marked : key.Marked) :
      Shows ⟨.clause, text, [key.node, ⟨.operator, operator, []⟩]⟩ ⟨key, operator, none⟩
  /-- The operand of a clause is a literal, with whatever is inside. -/
  | operand {text : List Char} {key : WrittenKey} {operator literal : List Char} {inner : List Pair}
      (marked : key.Marked) :
      Shows ⟨.clause, text, [key.node, ⟨.operator, operator, []⟩, ⟨.literal, literal, inner⟩]⟩
        ⟨key, operator, some literal⟩

/-- What a clause says behind its key: an operator, and a literal if there is one. -/
theorem exists_runs_operand (whole text : List Char) :
    ∃ after nodes, Runs whole false (.maybe (.call .literal)) (skipSpace text) (some (after, nodes)) ∧
      match readLiteral (skipSpace text) with
      | some (literal, rest) => after = rest ∧ ∃ inner, nodes = [⟨.literal, literal, inner⟩]
      | none => after = skipSpace text ∧ nodes = [] := by
  obtain ⟨inner, runs⟩ := runs_literal whole (skipSpace text)
  -- Without an operand nothing is taken, but the space in front of it is skipped.
  cases found : readLiteral (skipSpace text) with
  | none =>
    rw [found] at runs
    exact ⟨_, _, .maybe runs, rfl, rfl⟩
  | some read =>
    rw [found] at runs
    exact ⟨_, _, .maybe runs, rfl, inner, rfl⟩

/-- What shows a clause is the node of a clause. -/
theorem Shows.rule_eq {node : Pair} {clause : WrittenClause} (shows : Shows node clause) :
    node.rule = .clause := by
  cases shows <;> rfl

/-- No clause is where its reader finds none. -/
theorem runs_clause_none (none_ : readClause text = none) :
    Runs whole false (.call .clause) text none := by
  have keyRuns := runs_key whole text
  have body : Runs whole false Rule.clause.body text none := by
    cases keyFound : readKey text with
    | none =>
      rw [keyFound] at keyRuns
      exact .bothFails keyRuns
    | some read =>
      obtain ⟨key, afterKey⟩ := read
      rw [keyFound] at keyRuns
      -- With a key it must be the operator that is missing.
      rw [readClause, keyFound, Option.bind_some, Option.map_eq_none_iff] at none_
      have operatorRuns := runs_operator whole (skipSpace afterKey)
      rw [none_] at operatorRuns
      exact .both keyRuns (.bothFails operatorRuns)
  have called : Runs whole false (.call .clause) text _ := .call body
  exact called

/-- A clause is what its reader takes, up to the space behind a missing operand. -/
theorem runs_clause (whole : List Char) {clause : WrittenClause}
    (found : readClause text = some (clause, rest)) :
    ∃ after node, Runs whole false (.call .clause) text (some (after, [node])) ∧ Shows node clause ∧
      skipSpace after = skipSpace rest := by
  obtain ⟨⟨key, afterKey⟩, keyFound, found⟩ := Option.bind_eq_some_iff.mp found
  obtain ⟨⟨operator, afterOperator⟩, operatorFound, found⟩ := Option.map_eq_some_iff.mp found
  have keyRuns := runs_key whole text
  have operatorRuns := runs_operator whole (skipSpace afterKey)
  rw [keyFound] at keyRuns
  rw [operatorFound] at operatorRuns
  obtain ⟨after, nodes, operandRuns, operand⟩ := exists_runs_operand whole afterOperator
  -- The three parts are run one behind the other, each behind the space that follows the last.
  have runs : Runs whole false (.call .clause) text _ :=
    .call (.both keyRuns (.both operatorRuns operandRuns))
  refine ⟨after, _, runs, ?_⟩
  cases literalFound : readLiteral (skipSpace afterOperator) with
  | none =>
    simp only [literalFound] at operand found
    obtain ⟨rfl, rfl⟩ := operand
    obtain ⟨rfl, rfl⟩ := Prod.mk.inj found
    exact ⟨.alone (marked_of_readKey keyFound), skipSpace_skipSpace _⟩
  | some read =>
    obtain ⟨literal, afterLiteral⟩ := read
    simp only [literalFound] at operand found
    obtain ⟨rfl, inner, rfl⟩ := operand
    obtain ⟨rfl, rfl⟩ := Prod.mk.inj found
    exact ⟨.operand (marked_of_readKey keyFound), rfl⟩

/-- The nodes inside of a node, without those of one rule. -/
def Pair.without (node : Pair) (rule : Rule) : List Pair :=
  node.inner.filter (·.rule != rule)

/-- The node of a conjunction shows the clauses of a group. -/
def ShowsGroup (node : Pair) (group : List WrittenClause) : Prop :=
  node.rule = .conjunction ∧ List.Forall₂ Shows (node.without .andWord) group

/-- Behind a clause the text goes on with clauses of its group, and then with other groups. -/
def Continues (whole text : List Char) (others : List (Connective × WrittenClause))
    (rest : List Char) : Prop :=
  ∃ middle after nodes more clauses groups,
    Runs whole false (.further (.both (.call .andWord) (.call .clause))) text
      (some (middle, nodes)) ∧
    Runs whole false (.further (.both (.call .orWord) (.call .conjunction))) middle
      (some (after, more)) ∧
    skipSpace after = skipSpace rest ∧
    List.Forall₂ Shows (nodes.filter (·.rule != .andWord)) clauses ∧
    List.Forall₂ ShowsGroup (more.filter (·.rule != .orWord)) groups ∧
    ∀ first, grouped first others = (first :: clauses) :: groups

section Further

variable {connective : Connective} {clause : WrittenClause} {afterConnective afterClause : List Char}
  {others : List (Connective × WrittenClause)}

/-- A connective of the other kind, or none, is no connective. -/
theorem runs_connective_none
    (absent : ∀ after, readConnective text ≠ some (connective, after)) :
    Runs whole false (.call connective.rule) text none := by
  have runs := runs_connective whole connective text
  have none_ : skipConnective connective text = none := by
    unfold skipConnective
    cases found : readConnective text with
    | none => rfl
    | some read =>
      obtain ⟨other, after⟩ := read
      refine if_neg fun same => absent after ?_
      rw [found, same]
  rwa [none_] at runs

/-- A connective leaves one node, which does not count among the others. -/
theorem runs_connective_some (whole : List Char)
    (found : readConnective text = some (connective, rest)) :
    Runs whole false (.call connective.rule) text
      (some (rest, [⟨connective.rule, taken text rest, []⟩])) := by
  have runs := runs_connective whole connective text
  have some_ : skipConnective connective text = some rest := by
    rw [skipConnective, found, Option.bind_some]
    exact if_pos rfl
  rwa [some_] at runs

/-- A connective that is missing, or has nothing behind it, fails
together with what should follow. -/
theorem runs_joined_none (connective : Connective) {part : Peg}
    (fails : ∀ after, readConnective text = some (connective, after) →
      Runs whole false part (skipSpace after) none) :
    Runs whole false (.both (.call connective.rule) part) text none := by
  by_cases present : ∃ after, readConnective text = some (connective, after)
  · obtain ⟨after, found⟩ := present
    have joined : Runs whole false (.both (.call connective.rule) part) text _ :=
      .both (runs_connective_some whole found) (fails after found)
    exact joined
  · exact .bothFails (runs_connective_none (not_exists.mp present))

/-- No group begins where no clause does. -/
theorem runs_conjunction_none (none_ : readClause text = none) :
    Runs whole false (.call .conjunction) text none := by
  have called : Runs whole false (.call .conjunction) text _ :=
    .call (.bothFails (runs_clause_none none_))
  exact called

/-- A repetition goes on in the same way where only the space in front is different. -/
theorem Runs.exists_further {part : Peg} {middle start : List Char} {nodes : List Pair}
    (runs : Runs whole false (.further part) text (some (middle, nodes)))
    (same : skipSpace start = skipSpace text) :
    ∃ after, Runs whole false (.further part) start (some (after, nodes)) ∧
      skipSpace after = skipSpace middle := by
  generalize found : some (middle, nodes) = outcome at runs
  have behind : gap false start = gap false text := same
  -- The repetition looks behind the space only, which is the same on both sides.
  cases runs with
  | stops fails =>
    obtain ⟨rfl, rfl⟩ := Prod.mk.inj (Option.some.inj found)
    exact ⟨_, .stops (behind ▸ fails), same⟩
  | again once others =>
    have again : Runs whole false (.further part) start _ := .again (behind ▸ once) others
    rw [← found] at again
    exact ⟨middle, again, rfl⟩

namespace Continues

/-- The text does not go on where no connective has a clause behind it. -/
theorem nil
    (ends : ∀ connective after, readConnective (skipSpace text) = some (connective, after) →
      readClause (skipSpace after) = none)
    (same : skipSpace text = skipSpace rest) : Continues whole text [] rest := by
  have noClause : Runs whole false (.both (.call .andWord) (.call .clause)) (skipSpace text) none :=
    runs_joined_none .conjunction fun after joined => runs_clause_none (ends _ after joined)
  have noGroup : Runs whole false (.both (.call .orWord) (.call .conjunction)) (skipSpace text) none :=
    runs_joined_none .disjunction fun after joined => runs_conjunction_none (ends _ after joined)
  exact ⟨text, text, [], [], [], [], .stops noClause, .stops noGroup, same, .nil, .nil, fun _ => rfl⟩

/-- The text goes on with a clause of the same group behind a conjunction. -/
theorem conjunction
    (joined : readConnective (skipSpace text) = some (.conjunction, afterConnective))
    (found : readClause (skipSpace afterConnective) = some (clause, afterClause))
    (goesOn : ∀ after, skipSpace after = skipSpace afterClause → Continues whole after others rest) :
    Continues whole text ((.conjunction, clause) :: others) rest := by
  obtain ⟨after, node, clauseRuns, shows, same⟩ := runs_clause whole found
  obtain ⟨middle, final, nodes, more, clauses, groups, clausesRun, groupsRun, ended, clausesShow,
    groupsShow, cut⟩ := goesOn after same
  have connectiveRuns := runs_connective_some whole joined
  refine ⟨middle, final, _, more, clause :: clauses, groups,
    .again (.both connectiveRuns clauseRuns) clausesRun, groupsRun, ended, ?_, groupsShow, ?_⟩
  · -- The node of the connective does not count, and that of the clause comes first.
    simpa [Connective.rule, shows.rule_eq] using List.Forall₂.cons shows clausesShow
  · intro first
    rw [grouped_conjunction, cut, List.modifyHead_cons]

/-- A clause and what the text goes on with are a group and what goes on behind that. -/
theorem exists_group (found : readClause text = some (clause, afterClause))
    (goesOn : ∀ after, skipSpace after = skipSpace afterClause → Continues whole after others rest) :
    ∃ behind last group more, Runs whole false (.call .conjunction) text (some (behind, [group])) ∧
      Runs whole false (.further (.both (.call .orWord) (.call .conjunction))) behind
        (some (last, more)) ∧
      skipSpace last = skipSpace rest ∧
      List.Forall₂ ShowsGroup (([group] ++ more).filter (·.rule != .orWord)) (grouped clause others) := by
  obtain ⟨after, node, clauseRuns, shows, same⟩ := runs_clause whole found
  obtain ⟨middle, final, nodes, more, clauses, groups, clausesRun, groupsRun, ended, clausesShow,
    groupsShow, cut⟩ := goesOn after same
  -- The conjunctions of the group are a repetition behind its first clause.
  obtain ⟨behind, many, sameBehind⟩ := clausesRun.exists_many
  obtain ⟨last, groupsRun, sameLast⟩ := groupsRun.exists_further sameBehind
  have groupRuns : Runs whole false (.call .conjunction) text _ := .call (.both clauseRuns many)
  have group : ShowsGroup ⟨.conjunction, taken text behind, [node] ++ nodes⟩ (clause :: clauses) :=
    ⟨rfl, by simpa [Pair.without, shows.rule_eq] using List.Forall₂.cons shows clausesShow⟩
  refine ⟨behind, last, _, more, groupRuns, groupsRun, sameLast.trans ended, ?_⟩
  rw [cut]
  simpa using List.Forall₂.cons group groupsShow

/-- The text goes on with another group behind a disjunction. -/
theorem disjunction
    (joined : readConnective (skipSpace text) = some (.disjunction, afterConnective))
    (found : readClause (skipSpace afterConnective) = some (clause, afterClause))
    (goesOn : ∀ after, skipSpace after = skipSpace afterClause → Continues whole after others rest) :
    Continues whole text ((.disjunction, clause) :: others) rest := by
  obtain ⟨behind, last, group, more, groupRuns, groupsRun, ended, groupsShow⟩ :=
    exists_group found goesOn
  have connectiveRuns := runs_connective_some whole joined
  have noClause : Runs whole false (.both (.call .andWord) (.call .clause)) (skipSpace text) none :=
    runs_joined_none .conjunction fun after other => by simp [joined] at other
  exact ⟨text, last, [], _, [], grouped clause others, .stops noClause,
    .again (.both connectiveRuns groupRuns) groupsRun, ended, .nil, groupsShow, fun _ => rfl⟩

end Continues

/-- A word takes at least one character. -/
theorem length_lt_of_skipWordAnyCase {first : Char} {word : List Char}
    (skipped : skipWordAnyCase (first :: word) text = some rest) : rest.length < text.length := by
  obtain ⟨letter, more, rfl, _⟩ := opensConnective_of_any skipped
  simp only [skipWordAnyCase] at skipped
  -- As many characters are dropped as the word has, which are some.
  split at skipped
  · obtain rfl := Option.some.inj skipped
    simp only [List.length_drop, List.length_cons]
    omega
  · contradiction

/-- A connective takes at least one character. -/
theorem length_lt_of_readConnective (found : readConnective text = some (connective, rest)) :
    rest.length < text.length := by
  -- The cases are the two signs and the two words.
  unfold readConnective at found
  split at found
  · obtain ⟨_, rfl⟩ := Prod.mk.inj (Option.some.inj found)
    simp only [List.length_cons]
    omega
  · obtain ⟨_, rfl⟩ := Prod.mk.inj (Option.some.inj found)
    simp only [List.length_cons]
    omega
  · split at found
    · rename_i skipped
      obtain ⟨_, rfl⟩ := Prod.mk.inj (Option.some.inj found)
      exact length_lt_of_skipWordAnyCase skipped
    · obtain ⟨_, skipped, same⟩ := Option.map_eq_some_iff.mp found
      obtain ⟨_, rfl⟩ := Prod.mk.inj same
      exact length_lt_of_skipWordAnyCase skipped

/-- The text goes on as the reader of further clauses does. -/
theorem continues_of_readFurther {fuel : Nat} {start : List Char}
    (same : skipSpace text = skipSpace start) (read : readFurther fuel start = (others, rest))
    (enough : start.length ≤ fuel) : Continues whole text others rest := by
  -- The induction is on the calls of the reader, of which each takes a connective and a clause.
  induction fuel generalizing text start others with
  | zero =>
    -- No calls are left only where no text is left.
    obtain rfl := List.length_eq_zero_iff.mp (Nat.le_zero.mp enough)
    obtain ⟨rfl, rfl⟩ := Prod.mk.inj read
    refine .nil (fun connective after joined => ?_) same
    rw [same] at joined
    exact absurd joined (by simp [skipSpace, readConnective, skipWordAnyCase])
  | succ fuel ih =>
    rw [readFurther] at read
    split at read
    · rename_i none_
      obtain ⟨rfl, rfl⟩ := Prod.mk.inj read
      -- Without a connective the reader stops, and so does the grammar.
      refine .nil (fun connective after joined => ?_) same
      rw [same, none_] at joined
      contradiction
    · rename_i connective afterConnective joined
      split at read
      · rename_i none_
        obtain ⟨rfl, rfl⟩ := Prod.mk.inj read
        -- A connective without a clause behind it is left where it is.
        refine .nil (fun other after otherJoined => ?_) same
        rw [same, joined] at otherJoined
        obtain ⟨_, rfl⟩ := Prod.mk.inj (Option.some.inj otherJoined)
        exact none_
      · rename_i clause afterClause found
        cases inner : readFurther fuel afterClause with
        | mk more behind =>
          rw [inner] at read
          obtain ⟨rfl, rfl⟩ := Prod.mk.inj read
          -- The connective has taken something, so a call less is enough behind the clause.
          have shorter := length_lt_of_readConnective joined
          have blank : (skipSpace start).length ≤ start.length := skipSpace_suffix.length_le
          have less := ((readClause_suffix found).trans skipSpace_suffix).length_le
          have goesOn : ∀ after, skipSpace after = skipSpace afterClause →
              Continues whole after more behind := fun after sameAfter =>
            ih sameAfter inner (by omega)
          rw [← same] at joined
          -- A conjunction goes on with the group, and a disjunction opens another.
          cases connective with
          | conjunction => exact .conjunction joined found goesOn
          | disjunction => exact .disjunction joined found goesOn

end Further

section Whole

variable {groups : List (List WrittenClause)}

/-- The node of a whole text shows the groups in it. -/
inductive ShowsExpression : Pair → List (List WrittenClause) → Prop
  /-- A text of space alone holds nothing but its end. -/
  | empty {text ending : List Char} :
      ShowsExpression ⟨.expression, text, [⟨.endOfInput, ending, []⟩]⟩ []
  /-- Any other text holds a disjunction, and its end. -/
  | inhabited {text ending : List Char} {disjunction : Pair} {groups : List (List WrittenClause)}
      (rule_eq : disjunction.rule = .disjunction)
      (shows : List.Forall₂ ShowsGroup (disjunction.without .orWord) groups) :
      ShowsExpression ⟨.expression, text, [disjunction, ⟨.endOfInput, ending, []⟩]⟩ groups

/-- The end of the text is where nothing is left. -/
theorem runs_endOfInput (whole text : List Char) :
    Runs whole false (.call .endOfInput) text
      (if text.isEmpty then some ([], [⟨.endOfInput, taken text [], []⟩]) else none) := by
  have called : Runs whole false (.call .endOfInput) text _ := .call .terminal
  cases text <;> exact called

/-- What a whole text holds is found behind the space at its start, and space may follow it. -/
theorem runs_expression {rest : List Char} {nodes : List Pair}
    (runs : Runs text false (.maybe (.call .disjunction)) (skipSpace text) (some (rest, nodes))) :
    Runs text false (.call .expression) text
      (if (skipSpace rest).isEmpty then
        some ([], [⟨.expression, text, nodes ++ [⟨.endOfInput, [], []⟩]⟩])
      else none) := by
  have atStart : Terminal.skip text .start text = some text := by simp [Terminal.skip]
  have started : Runs text false (.terminal .start) text ((some text).map (·, [])) :=
    atStart ▸ .terminal
  have called : Runs text false (.call .expression) text _ :=
    .call (.both started (.both runs (runs_endOfInput text (skipSpace rest))))
  -- Either nothing is left behind the space, and the text ends, or the rule fails there.
  cases blank : skipSpace rest with
  | nil =>
    rw [blank] at called
    have all : taken text [] = text := by simp [taken]
    simpa [precede, Rule.enclose, Rule.kind, all, taken] using called
  | cons first more =>
    rw [blank] at called
    exact called

/-- Groups are found where a first clause and what follows it are. -/
theorem exists_runs_disjunction {first : WrittenClause} {afterFirst rest : List Char}
    {others : List (Connective × WrittenClause)}
    (found : readClause (skipSpace text) = some (first, afterFirst))
    (further : readFurther afterFirst.length afterFirst = (others, rest)) :
    ∃ last disjunction, Runs whole false (.call .disjunction) (skipSpace text)
        (some (last, [disjunction])) ∧
      skipSpace last = skipSpace rest ∧ disjunction.rule = .disjunction ∧
      List.Forall₂ ShowsGroup (disjunction.without .orWord) (grouped first others) := by
  -- Every call of the reader takes a character, so their number is enough.
  have goesOn : ∀ after, skipSpace after = skipSpace afterFirst → Continues whole after others rest :=
    fun after same => continues_of_readFurther same further (Nat.le_refl _)
  obtain ⟨behind, last, group, more, groupRuns, groupsRun, ended, shows⟩ :=
    Continues.exists_group found goesOn
  -- The groups behind the first are a repetition, as its further clauses are.
  obtain ⟨final, many, sameFinal⟩ := groupsRun.exists_many
  have called : Runs whole false (.call .disjunction) (skipSpace text) _ := .call (.both groupRuns many)
  exact ⟨final, _, called, sameFinal.trans ended, rfl, shows⟩

/-- Without a first clause there is no disjunction, and nothing is taken for one. -/
theorem runs_empty (none_ : readClause (skipSpace text) = none) :
    Runs whole false (.maybe (.call .disjunction)) (skipSpace text) (some (skipSpace text, [])) := by
  have noGroups : Runs whole false (.call .disjunction) (skipSpace text) _ :=
    .call (.bothFails (runs_conjunction_none none_))
  exact .maybe noGroups

/-- A text follows the grammar, with the groups that its reader finds,
unless the reader finds none. -/
theorem runs_of_readGroups (text : List Char) :
    match readGroups text with
    | none => Fails text
    | some groups => ∃ tree, Follows text [tree] ∧ ShowsExpression tree groups := by
  unfold readGroups
  -- Without a first clause there are no groups, and then only space may be there.
  cases found : readClause (skipSpace text) with
  | none =>
    have runs := runs_expression (runs_empty found)
    rw [skipSpace_skipSpace] at runs
    simp only [found]
    by_cases blank : (skipSpace text).isEmpty = true
    · rw [if_pos blank] at runs ⊢
      exact ⟨_, ⟨[], runs⟩, .empty⟩
    · rw [if_neg blank] at runs ⊢
      exact runs
  | some clause =>
    obtain ⟨first, afterFirst⟩ := clause
    cases further : readFurther afterFirst.length afterFirst with
    | mk others rest =>
      obtain ⟨last, disjunction, disjunctionRuns, same, rule_eq, shows⟩ :=
        exists_runs_disjunction found further
      have runs := runs_expression (.maybe disjunctionRuns)
      rw [same] at runs
      simp only [found, further]
      -- What the clauses leave must be space, for the reader and for the grammar.
      by_cases blank : (skipSpace rest).isEmpty = true
      · rw [if_pos blank] at runs ⊢
        exact ⟨_, ⟨[], runs⟩, .inhabited rule_eq shows⟩
      · rw [if_neg blank] at runs ⊢
        exact runs

/-- A text that the reader refuses does not follow the grammar. -/
theorem fails_of_readGroups (none_ : readGroups text = none) : Fails text := by
  have runs := runs_of_readGroups text
  rwa [none_] at runs

/-- A text that the reader takes follows the grammar, with the groups that it finds. -/
theorem exists_follows (read : readGroups text = some groups) :
    ∃ tree, Follows text [tree] ∧ ShowsExpression tree groups := by
  have runs := runs_of_readGroups text
  rwa [read] at runs

end Whole

end Expression

end RecordFilter
