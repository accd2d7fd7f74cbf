import RecordFilter.Proofs.Expression.Tokens

/-! The grammar's rule of literals takes what the reader of literals
takes, however deep they nest. -/

namespace RecordFilter.Expression

/-- Outside of atomic rules, what follows a part of the grammar is
the given rest, whatever it leaves. -/
def Ends (whole : List Char) (peg : Peg) (text : List Char) (rest? : Option (List Char)) : Prop :=
  ∃ nodes, Runs whole false peg text (rest?.map (·, nodes))

variable {whole text rest : List Char} {rest? : Option (List Char)}

namespace Ends

variable {first second : Peg} {rule : Rule}

/-- A smallest part ends where it does anywhere. -/
theorem terminal {terminal : Terminal} :
    Ends whole (.terminal terminal) text (terminal.skip whole text) :=
  ⟨[], .terminal⟩

/-- The nodes that are left may depend on what follows them. -/
theorem of_nodes {peg : Peg} {nodes : List Char → List Pair}
    (runs : Runs whole false peg text (rest?.map fun rest => (rest, nodes rest))) :
    Ends whole peg text rest? := by
  cases rest? with
  | none => exact ⟨[], runs⟩
  | some rest => exact ⟨nodes rest, runs⟩

/-- An atomic rule ends where its reader does. -/
theorem ofSkips {skip : List Char → Option (List Char)} (kind : rule.kind = .atomic)
    (skips : Skips whole rule.body skip) : Ends whole (.call rule) text (skip text) :=
  of_nodes (Runs.ofSkips kind skips text)

/-- The second of two alternatives counts only where the first fails. -/
theorem either {other? : Option (List Char)} (ends : Ends whole first text rest?)
    (endsToo : Ends whole second text other?) :
    Ends whole (.either first second) text (rest?.or other?) := by
  obtain ⟨nodes, runs⟩ := ends
  obtain ⟨more, runsToo⟩ := endsToo
  cases rest? with
  | none => exact ⟨more, .eitherSecond runs runsToo⟩
  | some rest => exact ⟨nodes, .eitherFirst runs⟩

/-- What follows two parts follows the second, behind space, where the first does not fail. -/
theorem both {next? : List Char → Option (List Char)} (ends : Ends whole first text rest?)
    (endsToo : ∀ rest, rest? = some rest → Ends whole second (skipSpace rest) (next? rest)) :
    Ends whole (.both first second) text (rest?.bind next?) := by
  obtain ⟨nodes, runs⟩ := ends
  cases rest? with
  | none => exact ⟨nodes, .bothFails runs⟩
  | some rest =>
    obtain ⟨more, runsToo⟩ := endsToo rest rfl
    -- The nodes of both parts stand side by side, whatever they are.
    have joined := Runs.both runs runsToo
    rw [Option.map_map] at joined
    exact ⟨nodes ++ more, joined⟩

/-- A rule with a node of its own ends where its body does, and leaves that node alone. -/
theorem call_node (kind : rule.kind = .normal) (ends : Ends whole rule.body text rest?) :
    ∃ inner, Runs whole false (.call rule) text
      (rest?.map fun rest => (rest, [⟨rule, taken text rest, inner⟩])) := by
  obtain ⟨inner, runs⟩ := ends
  have ordinary : (false || decide (rule.kind = .atomic)) = false := by simp [kind]
  have called := Runs.call (ordinary ▸ runs)
  have node : rule.enclose false text ∘ (·, inner) =
      fun rest => (rest, [⟨rule, taken text rest, inner⟩]) := by
    funext rest
    simp [Rule.enclose, kind]
  rw [Option.map_map, node] at called
  exact ⟨inner, called⟩

/-- A rule with a node of its own ends where its body does. -/
theorem call (kind : rule.kind = .normal) (ends : Ends whole rule.body text rest?) :
    Ends whole (.call rule) text rest? := by
  obtain ⟨inner, runs⟩ := ends.call_node kind
  exact of_nodes runs

end Ends

/-- No space stands in front of what is left behind space. -/
theorem leaves_skipSpace (text : List Char) : Leaves isSpace (skipSpace text) :=
  (span_parts (List.span_eq_takeWhile_dropWhile isSpace text)).2.2

/-- Behind space there is no more of it. -/
@[simp] theorem skipSpace_skipSpace (text : List Char) :
    skipSpace (skipSpace text) = skipSpace text :=
  skipSpace_of_leaves (leaves_skipSpace text)

/-- A repetition goes on as it begins, up to the space that is not taken where it is over. -/
theorem Runs.exists_many {part : Peg} {middle : List Char} {nodes : List Pair}
    (runs : Runs whole false (.further part) text (some (middle, nodes))) :
    ∃ after, Runs whole false (.many part) (skipSpace text) (some (after, nodes)) ∧
      skipSpace after = skipSpace middle := by
  generalize found : some (middle, nodes) = outcome at runs
  -- A repetition that stops at once is one that was never begun.
  cases runs with
  | stops fails =>
    obtain ⟨rfl, rfl⟩ := Prod.mk.inj (Option.some.inj found)
    exact ⟨_, .never fails, skipSpace_skipSpace middle⟩
  | again once others =>
    have many : Runs whole false (.many part) (skipSpace text) _ := .many once others
    rw [← found] at many
    exact ⟨middle, many, rfl⟩

section Lists

variable {part : Peg} {opening closing : Char}

/-- Behind a part of a list come others, each behind a comma, and then the closing bracket. -/
def Behind (whole : List Char) (part : Peg) (closing : Char) (text : List Char)
    (rest? : Option (List Char)) : Prop :=
  ∃ middle nodes, Runs whole false (.further (.both (.word [',']) part)) text (some (middle, nodes)) ∧
    skipOne (· == closing) (skipSpace middle) = rest?

/-- A list that is not empty: a part, others behind it, and the closing bracket. -/
def Listed (whole : List Char) (part : Peg) (closing : Char) (text : List Char)
    (rest? : Option (List Char)) : Prop :=
  (Runs whole false part text none ∧ rest? = none) ∨
    ∃ after nodes, Runs whole false part text (some (after, nodes)) ∧
      Behind whole part closing after rest?

/-- Without a comma no other part follows. -/
theorem behind_of_none (none_ : skipOne (· == ',') (skipSpace text) = none) :
    Behind whole part closing text (skipOne (· == closing) (skipSpace text)) := by
  have comma : Runs whole false (.word [',']) (skipSpace text) _ := runs_single ',' (skipSpace text)
  -- The repetition stops at once, in front of the space that it has looked behind.
  rw [none_] at comma
  exact ⟨text, [], .stops (.bothFails comma), rfl⟩

/-- Behind a comma there must be another part, or the list is not closed. -/
theorem behind_of_comma (comma : skipSpace text = ',' :: rest) (differs : closing ≠ ',')
    (listed : Listed whole part closing (skipSpace rest) rest?) :
    Behind whole part closing text rest? := by
  have taken : Runs whole false (.word [',']) (skipSpace text) (some (rest, [])) := by
    rw [comma]
    exact runs_single ',' _
  obtain ⟨fails, rfl⟩ | ⟨after, nodes, found, middle, more, further, closed⟩ := listed
  · -- The comma is not taken either, and it is not the closing bracket.
    refine ⟨text, [], .stops (.both taken fails), ?_⟩
    simp [comma, skipOne, differs.symm]
  · exact ⟨middle, nodes ++ more, .again (.both taken found) further, closed⟩

/-- A list goes on behind a comma, or is closed at once, or is none. -/
theorem behind_intro (differs : closing ≠ ',')
    (goesOn : ∀ rest, skipSpace text = ',' :: rest →
      Listed whole part closing (skipSpace rest) rest?)
    (closed : ∀ rest, skipSpace text = closing :: rest → rest? = some rest)
    (refused : (∀ rest, skipSpace text ≠ ',' :: rest) →
      (∀ rest, skipSpace text ≠ closing :: rest) → rest? = none) :
    Behind whole part closing text rest? := by
  cases comma : skipOne (· == ',') (skipSpace text) with
  | some rest => exact behind_of_comma (eq_of_skipOne comma) differs (goesOn rest (eq_of_skipOne comma))
  | none =>
    -- What is left to show is that the closing bracket alone decides.
    suffices same : rest? = skipOne (· == closing) (skipSpace text) from same ▸ behind_of_none comma
    have noComma : ∀ rest, skipSpace text ≠ ',' :: rest := fun rest same => by
      rw [same, skipOne_self] at comma
      contradiction
    cases close : skipOne (· == closing) (skipSpace text) with
    | some rest => exact closed rest (eq_of_skipOne close)
    | none =>
      refine refused noComma fun rest same => ?_
      rw [same, skipOne_self] at close
      contradiction

/-- A bracket ends where what is in front of the other bracket leaves that one behind space. -/
theorem ends_bracketed_of_runs {middle : List Char} {nodes : List Pair}
    (runs : Runs whole false (.maybe (.separated (.word [',']) part)) (skipSpace rest)
      (some (middle, nodes))) :
    Ends whole (.bracketed opening closing part) (opening :: rest)
      (skipOne (· == closing) (skipSpace middle)) := by
  -- All three parts are run one behind the other, with the space between them skipped.
  have single : ∀ letter text, Ends whole (.word [letter]) text (skipOne (· == letter) text) :=
    fun letter text => ⟨[], runs_single letter text⟩
  have opened : Ends whole (.word [opening]) (opening :: rest) (some rest) := by
    simpa [skipOne] using single opening (opening :: rest)
  have held : Ends whole (.maybe (.separated (.word [',']) part)) (skipSpace rest) (some middle) :=
    ⟨nodes, runs⟩
  have closed : Ends whole _ (skipSpace rest) ((some middle).bind fun middle => _) :=
    held.both fun middle _ => single closing (skipSpace middle)
  exact opened.both fun rest found => Option.some.inj found ▸ closed

/-- Brackets hold nothing where no part can begin. -/
theorem ends_bracketed_empty (fails : Runs whole false part (skipSpace rest) none) :
    Ends whole (.bracketed opening closing part) (opening :: rest)
      (skipOne (· == closing) (skipSpace rest)) := by
  -- Without a first part the list is empty, and an empty list may be left out.
  have empty : Runs whole false (.maybe (.separated (.word [',']) part)) (skipSpace rest)
      (some (skipSpace rest, [])) := .maybe (.bothFails fails)
  have ends : Ends whole (.bracketed opening closing part) (opening :: rest) _ :=
    ends_bracketed_of_runs empty
  rwa [skipSpace_skipSpace] at ends

/-- Brackets hold a list where a part can begin. -/
theorem ends_bracketed (listed : Listed whole part closing (skipSpace rest) rest?)
    (inhabited : skipOne (· == closing) (skipSpace rest) = none) :
    Ends whole (.bracketed opening closing part) (opening :: rest) rest? := by
  obtain ⟨fails, rfl⟩ | ⟨after, nodes, found, middle, more, further, rfl⟩ := listed
  · exact inhabited ▸ ends_bracketed_empty fails
  · -- The parts behind the first are repeated with the commas in front of them.
    obtain ⟨behind, many, same⟩ := further.exists_many
    have some_ : Runs whole false (.maybe (.separated (.word [',']) part)) (skipSpace rest)
        (some (behind, nodes ++ more)) := .maybe (.both found many)
    exact same ▸ ends_bracketed_of_runs some_

/-- What brackets hold is a list, or nothing where the other bracket follows the first. -/
theorem ends_bracketed_bind {others? : List Char → Option (List Char)}
    (fails : ∀ rest after, skipOne (· == opening) text = some rest →
      skipSpace rest = closing :: after → Ends whole part (skipSpace rest) none)
    (listed : ∀ rest, skipOne (· == opening) text = some rest →
      Listed whole part closing (skipSpace rest) (others? (skipSpace rest))) :
    Ends whole (.bracketed opening closing part) text
      ((skipOne (· == opening) text).bind fun rest =>
        (skipOne (· == closing) (skipSpace rest)).or (others? (skipSpace rest))) := by
  cases opened : skipOne (· == opening) text with
  | none =>
    have fails : Runs whole false (.word [opening]) text _ := runs_single opening text
    rw [opened] at fails
    exact ⟨[], .bothFails fails⟩
  | some rest =>
    obtain rfl := eq_of_skipOne opened
    rw [Option.bind_some]
    -- An empty list is tried first, as the reader does it.
    cases closed : skipOne (· == closing) (skipSpace rest) with
    | none => exact ends_bracketed (listed rest opened) closed
    | some after =>
      obtain ⟨_, empty⟩ := fails rest after opened (eq_of_skipOne closed)
      rw [Option.some_or, ← closed]
      exact ends_bracketed_empty empty

/-- A list is as long as its first part, and what comes behind that. -/
theorem listed_of_ends {next? : List Char → Option (List Char)} (ends : Ends whole part text rest?)
    (behind : ∀ after, rest? = some after → Behind whole part closing after (next? after)) :
    Listed whole part closing text (rest?.bind next?) := by
  obtain ⟨nodes, runs⟩ := ends
  cases rest? with
  | none => exact .inl ⟨runs, rfl⟩
  | some after => exact .inr ⟨after, nodes, runs, behind after rfl⟩

end Lists

section Alternatives

variable {first : Char} {fuel : Nat}

/-- What follows an array. -/
def skipArray (fuel : Nat) (text : List Char) : Option (List Char) :=
  (skipOne (· == '[') text).bind fun rest =>
    (skipOne (· == ']') (skipSpace rest)).or (skipItems fuel (skipSpace rest))

/-- What follows an object. -/
def skipObject (fuel : Nat) (text : List Char) : Option (List Char) :=
  (skipOne (· == '\x7b') text).bind fun rest =>
    (skipOne (· == '\x7d') (skipSpace rest)).or (skipMembers fuel (skipSpace rest))

/-- No word begins with another character than its first. -/
theorem skipWord_of_ne {letter : Char} {word : List Char} (differs : letter ≠ first) :
    skipWord (letter :: word) (first :: rest) = none := by
  simp [skipWord, List.isPrefixOf, differs]

/-- No number begins with another character than a minus sign or a digit. -/
theorem skipNumber_of_ne (noMinus : first ≠ '-') (noDigit : first.isDigit = false) :
    skipNumber (first :: rest) = none := by
  cases skipped : skipNumber (first :: rest) with
  | none => rfl
  | some after =>
    -- What a number opens with is its sign or its first digit.
    obtain ⟨_, _, same, opens⟩ := skipNumber_opens skipped
    obtain ⟨rfl, _⟩ := List.cons.inj same
    exact opens.elim (absurd · noMinus) (absurd · (by simp [noDigit]))

/-- An array is closed at once, or its items follow. -/
theorem skipArray_cons :
    skipArray fuel ('[' :: rest) =
      match skipSpace rest with
      | ']' :: after => some after
      | inner => skipItems fuel inner := by
  rw [skipArray, skipOne_self, Option.bind_some]
  split
  · rename_i closed
    rw [closed, skipOne_self, Option.some_or]
  · rename_i inhabited
    rw [skipOne_eq_none inhabited, Option.none_or]

/-- An object is closed at once, or its members follow. -/
theorem skipObject_cons :
    skipObject fuel ('\x7b' :: rest) =
      match skipSpace rest with
      | '\x7d' :: after => some after
      | inner => skipMembers fuel inner := by
  rw [skipObject, skipOne_self, Option.bind_some]
  split
  · rename_i closed
    rw [closed, skipOne_self, Option.some_or]
  · rename_i inhabited
    rw [skipOne_eq_none inhabited, Option.none_or]

/-- A key, a colon and a literal make a member. -/
theorem skipMember_eq_bind :
    skipMember (fuel + 1) text =
      (skipString text).bind fun afterKey =>
        (skipOne (· == ':') (skipSpace afterKey)).bind fun value =>
          skipLiteral fuel (skipSpace value) := by
  unfold skipMember
  -- The reader looks at the quotation mark and at the colon by itself.
  split
  case h_1 rest =>
    rw [skipString, skipOne_self, Option.bind_some]
    refine congrArg _ (funext fun afterKey => ?_)
    split
    · rename_i colon
      rw [colon, skipOne_self, Option.bind_some]
    · rename_i noColon
      rw [skipOne_eq_none noColon, Option.bind_none]
  case h_2 unquoted => rw [skipString, skipOne_eq_none unquoted, Option.bind_none, Option.bind_none]

/-- A character that begins no literal but a container. -/
def OpensNoScalar (first : Char) : Prop :=
  first ≠ '"' ∧ first ≠ '-' ∧ first.isDigit = false ∧ 't' ≠ first ∧ 'f' ≠ first ∧ 'n' ≠ first

instance (first : Char) : Decidable (OpensNoScalar first) := by
  unfold OpensNoScalar
  infer_instance

/-- Only a container can be found where no other literal begins. -/
theorem or_of_opensNoScalar (opens : OpensNoScalar first) (container? : Option (List Char)) :
    (skipString (first :: rest)).or ((skipNumber (first :: rest)).or ((skipBoolean (first :: rest)).or
      ((skipWord ['n', 'u', 'l', 'l'] (first :: rest)).or container?))) = container? := by
  obtain ⟨noQuote, noMinus, noDigit, noTrue, noFalse, noNull⟩ := opens
  simp [skipString, skipOne, noQuote, skipNumber_of_ne noMinus noDigit, skipBoolean,
    skipWord_of_ne noTrue, skipWord_of_ne noFalse, skipWord_of_ne noNull]

/-- The reader of literals finds the same alternative by its first character as by trying all. -/
theorem skipLiteral_eq_or :
    skipLiteral (fuel + 1) text =
      (skipString text).or ((skipNumber text).or ((skipBoolean text).or
        ((skipWord ['n', 'u', 'l', 'l'] text).or ((skipArray fuel text).or (skipObject fuel text))))) := by
  unfold skipLiteral
  -- One case for each arm: a string, three words, two containers, a number.
  split
  case h_1 | h_2 | h_3 | h_4 =>
    simp [skipString, skipOne, skipNumber_of_ne, skipBoolean, skipWord_of_ne, skipArray, skipObject]
  case h_5 rest =>
    have noObject : skipObject fuel ('[' :: rest) = none := rfl
    refine Eq.trans ?_ (or_of_opensNoScalar (by decide) _).symm
    rw [noObject, Option.or_none]
    exact skipArray_cons.symm
  case h_6 rest =>
    have noArray : skipArray fuel ('\x7b' :: rest) = none := rfl
    refine Eq.trans ?_ (or_of_opensNoScalar (by decide) _).symm
    rw [noArray, Option.none_or]
    exact skipObject_cons.symm
  case h_7 noString noTrue noFalse noNull noArray noObject =>
    cases text with
    | nil => rfl
    | cons first rest =>
      -- Behind the six other arms only a number is left, and all other readers fail.
      have differs : first ≠ '"' ∧ first ≠ 't' ∧ first ≠ 'f' ∧ first ≠ 'n' ∧ first ≠ '[' ∧
          first ≠ '\x7b' := by
        refine ⟨?_, ?_, ?_, ?_, ?_, ?_⟩ <;> rintro rfl
        exacts [noString _ rfl, noTrue _ rfl, noFalse _ rfl, noNull _ rfl, noArray _ rfl,
          noObject _ rfl]
      simp [skipString, skipOne, skipBoolean, skipWord_of_ne, skipArray, skipObject, differs,
        Ne.symm differs.2.1, Ne.symm differs.2.2.1, Ne.symm differs.2.2.2.1]

/-- No literal begins with a character that begins neither a scalar nor a container. -/
theorem skipLiteral_of_closes (opens : OpensNoScalar first) (noArray : first ≠ '[')
    (noObject : first ≠ '\x7b') : skipLiteral fuel (first :: rest) = none := by
  cases fuel with
  | zero => rfl
  | succ fuel =>
    rw [skipLiteral_eq_or, or_of_opensNoScalar opens]
    simp [skipArray, skipObject, skipOne, noArray, noObject]

/-- No member begins with the brace that closes an object. -/
theorem skipMember_of_closes : skipMember fuel ('\x7d' :: rest) = none := by
  cases fuel <;> rfl

end Alternatives

section Nesting

variable {belongs : Char → Bool}

/-- Behind a character less of the text is left. -/
theorem length_lt_of_skipOne (skipped : skipOne belongs text = some rest) :
    rest.length < text.length := by
  cases text with
  | nil => contradiction
  | cons first more =>
    simp only [skipOne] at skipped
    split at skipped
    · obtain rfl := Option.some.inj skipped
      exact Nat.lt_succ_self _
    · contradiction

/-- A quoted text takes at least its opening mark. -/
theorem length_lt_of_skipString (skipped : skipString text = some rest) :
    rest.length < text.length := by
  obtain ⟨inner, opened, quoted⟩ := Option.bind_eq_some_iff.mp skipped
  exact Nat.lt_of_le_of_lt (skipQuoted_suffix quoted).length_le (length_lt_of_skipOne opened)

/-- Behind space and a comma less of the text is left. -/
theorem length_of_comma {letter : Char} (comma : skipSpace text = letter :: rest) :
    (skipSpace rest).length < text.length := by
  have front : (skipSpace text).length ≤ text.length := skipSpace_suffix.length_le
  have back : (skipSpace rest).length ≤ rest.length := skipSpace_suffix.length_le
  rw [comma, List.length_cons] at front
  omega

-- A call takes three units of fuel for a character, so that none runs out before the text does.

mutual

/-- What the rule of literals says ends where their reader does. -/
theorem ends_literal (fuel : Nat) {text : List Char} (enough : 3 * text.length + 3 ≤ fuel) :
    Ends whole Rule.literal.body text (skipLiteral fuel text) := by
  cases fuel with
  | zero => omega
  | succ fuel =>
    rw [skipLiteral_eq_or]
    -- What brackets hold is shorter than they are with it.
    have shorter : ∀ {belongs : Char → Bool} {rest : List Char}, skipOne belongs text = some rest →
        3 * (skipSpace rest).length + 4 ≤ fuel := by
      intro belongs rest opened
      have less := length_lt_of_skipOne opened
      have blank : (skipSpace rest).length ≤ rest.length := skipSpace_suffix.length_le
      omega
    have array : Ends whole (.call .array) text (skipArray fuel text) := by
      refine .call rfl (ends_bracketed_bind (fun rest after opened closed => ?_) fun rest opened => ?_)
      · -- The closing bracket itself begins no item.
        have fails : Ends whole (.call .literal) (skipSpace rest) _ :=
          .call rfl (ends_literal fuel (Nat.le_of_succ_le (shorter opened)))
        rwa [closed, skipLiteral_of_closes (by decide) (by decide) (by decide), ← closed] at fails
      · exact listed_items fuel (shorter opened)
    have object : Ends whole (.call .object) text (skipObject fuel text) := by
      refine .call rfl (ends_bracketed_bind (fun rest after opened closed => ?_) fun rest opened => ?_)
      · -- The closing brace itself begins no member.
        have fails : Ends whole (.call .member) (skipSpace rest) _ :=
          ends_member fuel (Nat.le_of_succ_le (shorter opened))
        rwa [closed, skipMember_of_closes, ← closed] at fails
      · exact listed_members fuel (shorter opened)
    exact (Ends.ofSkips rfl skips_string).either ((Ends.ofSkips rfl skips_number).either
      ((Ends.ofSkips rfl skips_boolean).either ((Ends.ofSkips rfl skips_null).either
        (array.either object))))

/-- The items of an array are listed as their reader takes them. -/
theorem listed_items (fuel : Nat) {text : List Char} (enough : 3 * text.length + 4 ≤ fuel) :
    Listed whole (.call .literal) ']' text (skipItems fuel text) := by
  cases fuel with
  | zero => omega
  | succ fuel =>
    rw [skipItems]
    refine listed_of_ends (.call rfl (ends_literal fuel (by omega))) fun after skipped => ?_
    have shorter := (skipLiteral_suffix fuel skipped).length_le
    refine behind_intro (by decide) (fun rest comma => ?_) (fun rest closed => ?_)
      fun noComma noClose => ?_
    · -- Behind a comma the text is shorter, so the fuel is enough for the other items.
      have enough := length_of_comma comma
      simp only [comma]
      exact listed_items fuel (by omega)
    · simp only [closed]
    · grind

/-- The members of an object are listed as their reader takes them. -/
theorem listed_members (fuel : Nat) {text : List Char} (enough : 3 * text.length + 4 ≤ fuel) :
    Listed whole (.call .member) '\x7d' text (skipMembers fuel text) := by
  cases fuel with
  | zero => omega
  | succ fuel =>
    rw [skipMembers]
    refine listed_of_ends (ends_member fuel (by omega)) fun after skipped => ?_
    have shorter := (skipMember_suffix fuel skipped).length_le
    refine behind_intro (by decide) (fun rest comma => ?_) (fun rest closed => ?_)
      fun noComma noClose => ?_
    · -- Behind a comma the text is shorter, so the fuel is enough for the other members.
      have enough := length_of_comma comma
      simp only [comma]
      exact listed_members fuel (by omega)
    · simp only [closed]
    · grind

/-- The rule of members ends where their reader does. -/
theorem ends_member (fuel : Nat) {text : List Char} (enough : 3 * text.length + 3 ≤ fuel) :
    Ends whole (.call .member) text (skipMember fuel text) := by
  cases fuel with
  | zero => omega
  | succ fuel =>
    rw [skipMember_eq_bind]
    refine .call rfl ((Ends.ofSkips rfl skips_string).both fun afterKey keySkipped => ?_)
    refine Ends.both ⟨[], runs_single ':' _⟩ fun value colonSkipped => ?_
    -- The key and the colon are part of the text, and its value is not.
    have lessColon := length_lt_of_skipOne colonSkipped
    have lessKey := length_lt_of_skipString keySkipped
    have blankKey : (skipSpace afterKey).length ≤ afterKey.length := skipSpace_suffix.length_le
    have blankValue : (skipSpace value).length ≤ value.length := skipSpace_suffix.length_le
    exact .call rfl (ends_literal fuel (by omega))

end

end Nesting

end RecordFilter.Expression
