import RecordFilter.Expression.Clause

/-! The grammar of expressions as rules, how a text runs through
them, and the tree that it leaves. -/

namespace RecordFilter.Expression

/-- The rules of the grammar. -/
inductive Rule
  /-- A whole text. -/
  | expression
  /-- Groups with disjunctions between them. -/
  | disjunction
  /-- Clauses with conjunctions between them. -/
  | conjunction
  /-- A key, an operator and perhaps an operand. -/
  | clause
  /-- The sign or the word of a disjunction. -/
  | orWord
  /-- The sign or the word of a conjunction. -/
  | andWord
  /-- A key of either kind. -/
  | key
  /-- A key without quotation marks. -/
  | identifier
  /-- A character of a key without quotation marks. -/
  | identifierCharacter
  /-- An operator. -/
  | operator
  /-- A literal of any kind. -/
  | literal
  /-- A text between quotation marks. -/
  | string
  /-- A number. -/
  | number
  /-- A truth value. -/
  | boolean
  /-- The null. -/
  | null
  /-- An array. -/
  | array
  /-- An object. -/
  | object
  /-- A member of an object. -/
  | member
  /-- The end of the whole text. -/
  | endOfInput
deriving DecidableEq

/-- What a rule does about the space between its parts and about the tree. -/
inductive RuleKind
  /-- Space may stand between the parts, and the rule has a node in the tree. -/
  | normal
  /-- The parts follow each other at once, and the node of the rule has none below it. -/
  | atomic
  /-- The nodes of the parts take the place of one for the rule. -/
  | silent
deriving DecidableEq

/-- The smallest parts of the grammar. -/
inductive Terminal
  /-- A character of a class. -/
  | character (belongs : Char → Bool)
  /-- Given characters. -/
  | word (letters : List Char)
  /-- Given small letters, or the capital ones in their places. -/
  | anyCase (letters : List Char)
  /-- Nothing, at the start of the whole text. -/
  | start
  /-- Nothing, at the end of the whole text. -/
  | finish

/-- Parsing expressions. -/
inductive Peg
  /-- A smallest part. -/
  | terminal (terminal : Terminal)
  /-- What a rule says. -/
  | call (rule : Rule)
  /-- One part behind the other. -/
  | both (first second : Peg)
  /-- The first part, or the second where the first fails. -/
  | either (first second : Peg)
  /-- A part, or nothing where it fails. -/
  | maybe (part : Peg)
  /-- A part as often as it does not fail. -/
  | many (part : Peg)
  /-- What a repeated part goes on with behind its first time. -/
  | further (part : Peg)
  /-- Nothing, where a part fails. -/
  | absent (part : Peg)

namespace Peg

/-- Given characters. -/
def word (letters : List Char) : Peg := terminal (.word letters)

/-- A part at least once, and as often as it does not fail. -/
def some_ (part : Peg) : Peg := both part (many part)

/-- A part at least once, with another part between any two of it. -/
def separated (separator part : Peg) : Peg := both part (many (both separator part))

/-- A digit. -/
def digit : Peg := terminal (.character Char.isDigit)

/-- Any character. -/
def anything : Peg := terminal (.character fun _ => true)

/-- A sign, of which operators without letters are made. -/
def sign : Peg :=
  either (word ['=']) (either (word ['!']) (either (word ['<']) (either (word ['>']) (word ['~']))))

/-- What may stand in a quoted text: any character behind a backslash,
and all but two without one. -/
def quotable : Peg :=
  either (both (word ['\\']) anything)
    (both (absent (either (word ['"']) (word ['\\']))) anything)

/-- The end of a word: no character may follow that a word could go on with. -/
def wordEnd : Peg := absent (call .identifierCharacter)

/-- A bracket, perhaps parts with commas between them, and the other bracket. -/
def bracketed (opening closing : Char) (part : Peg) : Peg :=
  both (word [opening]) (both (maybe (separated (word [',']) part)) (word [closing]))

end Peg

namespace Rule

open Peg

/-- The kind of a rule. -/
def kind : Rule → RuleKind
  | key => .silent
  | identifierCharacter => .silent
  | orWord => .atomic
  | andWord => .atomic
  | identifier => .atomic
  | operator => .atomic
  | string => .atomic
  | number => .atomic
  | boolean => .atomic
  | null => .atomic
  | _ => .normal

/-- What a rule says. -/
def body : Rule → Peg
  | expression => both (terminal .start) (both (maybe (call disjunction)) (call endOfInput))
  | disjunction => separated (call orWord) (call conjunction)
  | conjunction => separated (call andWord) (call clause)
  | clause => both (call key) (both (call operator) (maybe (call literal)))
  -- A doubled sign needs no end of a word behind it.
  | orWord => either (word ['|', '|']) (both (terminal (.anyCase ['o', 'r'])) wordEnd)
  | andWord => either (word ['&', '&']) (both (terminal (.anyCase ['a', 'n', 'd'])) wordEnd)
  | key => either (call string) (call identifier)
  | identifier => some_ (call identifierCharacter)
  | identifierCharacter =>
    either (terminal (.character Char.isAlphanum))
      (either (word ['_']) (either (word ['-']) (either (word ['$']) (word ['@']))))
  | operator => either (some_ sign) (some_ (terminal (.character Char.isAlpha)))
  | literal =>
    either (call string) (either (call number) (either (call boolean) (either (call null)
      (either (call array) (call object)))))
  | string => both (word ['"']) (both (many quotable) (word ['"']))
  | number =>
    both (maybe (word ['-'])) (both (some_ digit)
      (both (maybe (both (word ['.']) (some_ digit)))
        (both
          (maybe (both (terminal (.anyCase ['e']))
            (both (maybe (either (word ['+']) (word ['-']))) (some_ digit))))
          wordEnd)))
  | boolean => both (either (word ['t', 'r', 'u', 'e']) (word ['f', 'a', 'l', 's', 'e'])) wordEnd
  | null => both (word ['n', 'u', 'l', 'l']) wordEnd
  | array => bracketed '[' ']' (call literal)
  | object => bracketed '\x7b' '\x7d' (call member)
  | member => both (call string) (both (word [':']) (call literal))
  | endOfInput => terminal .finish

end Rule

/-- A node of the tree that a text leaves: a rule, the text that the
rule took, and the nodes inside. -/
structure Pair where
  /-- The rule. -/
  rule : Rule
  /-- What the rule took of the text. -/
  text : List Char
  /-- The nodes of the parts of the rule, in their order. -/
  inner : List Pair

/-- What a part of the grammar gives: nothing if it fails, else what
follows it and the nodes it leaves. -/
abbrev Outcome := Option (List Char × List Pair)

/-- What follows a smallest part, unless the part fails. -/
def Terminal.skip (whole : List Char) : Terminal → List Char → Option (List Char)
  | character belongs, text =>
    match text with
    | [] => none
    | first :: rest => if belongs first then some rest else none
  | word letters, text =>
    if letters.isPrefixOf text then some (text.drop letters.length) else none
  | anyCase letters, text =>
    if (text.take letters.length).map Char.toLower == letters then some (text.drop letters.length)
    else none
  -- What is left of the whole text is an end of it, so its length says where that stands.
  | start, text => if text.length == whole.length then some text else none
  | finish, text => if text.isEmpty then some [] else none

/-- What follows the space between two parts, which may stand outside of atomic rules only. -/
def gap (atomic : Bool) (text : List Char) : List Char :=
  if atomic then text else skipSpace text

/-- An outcome with the node of a rule: silent rules have none, and
inside of atomic rules none has. -/
def Rule.enclose (rule : Rule) (atomic : Bool) (text : List Char) :
    List Char × List Pair → List Char × List Pair
  | (rest, inner) =>
    if rule.kind = .silent then (rest, inner)
    else if atomic then (rest, [])
    else (rest, [⟨rule, taken text rest, inner⟩])

/-- An outcome behind nodes that were left before. -/
def precede (front : List Pair) : List Char × List Pair → List Char × List Pair
  | (rest, back) => (rest, front ++ back)

/-- How a text runs through a part of the grammar, inside or outside of atomic rules. -/
inductive Runs (whole : List Char) : Bool → Peg → List Char → Outcome → Prop
  /-- A smallest part leaves no nodes. -/
  | terminal {atomic : Bool} {terminal : Terminal} {text : List Char} :
      Runs whole atomic (.terminal terminal) text ((terminal.skip whole text).map (·, []))
  /-- A rule does what its body does, and encloses the nodes. -/
  | call {atomic : Bool} {rule : Rule} {text : List Char} {outcome : Outcome}
      (inner : Runs whole (atomic || rule.kind = .atomic) rule.body text outcome) :
      Runs whole atomic (.call rule) text (outcome.map (rule.enclose atomic text))
  /-- Where the first of two parts fails, both do. -/
  | bothFails {atomic : Bool} {first second : Peg} {text : List Char}
      (fails : Runs whole atomic first text none) : Runs whole atomic (.both first second) text none
  /-- The second of two parts goes on behind the first, and behind space. -/
  | both {atomic : Bool} {first second : Peg} {text middle : List Char} {nodes : List Pair}
      {outcome : Outcome} (front : Runs whole atomic first text (some (middle, nodes)))
      (back : Runs whole atomic second (gap atomic middle) outcome) :
      Runs whole atomic (.both first second) text (outcome.map (precede nodes))
  /-- The first alternative is taken where it does not fail. -/
  | eitherFirst {atomic : Bool} {first second : Peg} {text : List Char}
      {result : List Char × List Pair} (found : Runs whole atomic first text (some result)) :
      Runs whole atomic (.either first second) text (some result)
  /-- The second alternative is taken where the first fails, from the same place. -/
  | eitherSecond {atomic : Bool} {first second : Peg} {text : List Char} {outcome : Outcome}
      (fails : Runs whole atomic first text none) (other : Runs whole atomic second text outcome) :
      Runs whole atomic (.either first second) text outcome
  /-- An optional part that fails is nothing. -/
  | maybe {atomic : Bool} {part : Peg} {text : List Char} {outcome : Outcome}
      (inner : Runs whole atomic part text outcome) :
      Runs whole atomic (.maybe part) text (some (outcome.getD (text, [])))
  /-- A part that is looked for ahead takes nothing and leaves nothing. -/
  | absent {atomic : Bool} {part : Peg} {text : List Char} {outcome : Outcome}
      (inner : Runs whole atomic part text outcome) :
      Runs whole atomic (.absent part) text (if outcome.isSome then none else some (text, []))
  /-- A repeated part may fail the first time. -/
  | never {atomic : Bool} {part : Peg} {text : List Char}
      (fails : Runs whole atomic part text none) :
      Runs whole atomic (.many part) text (some (text, []))
  /-- A repeated part goes on behind its first time. -/
  | many {atomic : Bool} {part : Peg} {text middle : List Char} {nodes : List Pair}
      {outcome : Outcome} (once : Runs whole atomic part text (some (middle, nodes)))
      (others : Runs whole atomic (.further part) middle outcome) :
      Runs whole atomic (.many part) text (outcome.map (precede nodes))
  /-- A repetition is over where the part fails behind space, which is then not taken. -/
  | stops {atomic : Bool} {part : Peg} {text : List Char}
      (fails : Runs whole atomic part (gap atomic text) none) :
      Runs whole atomic (.further part) text (some (text, []))
  /-- A repetition goes on where the part does not fail behind space. -/
  | again {atomic : Bool} {part : Peg} {text middle : List Char} {nodes : List Pair}
      {outcome : Outcome} (once : Runs whole atomic part (gap atomic text) (some (middle, nodes)))
      (others : Runs whole atomic (.further part) middle outcome) :
      Runs whole atomic (.further part) text (outcome.map (precede nodes))

/-- A whole text follows the grammar and leaves the given nodes. -/
def Follows (text : List Char) (nodes : List Pair) : Prop :=
  ∃ rest, Runs text false (.call .expression) text (some (rest, nodes))

/-- A whole text does not follow the grammar. -/
def Fails (text : List Char) : Prop :=
  Runs text false (.call .expression) text none

variable {whole text rest : List Char} {atomic : Bool} {peg : Peg} {outcome other : Outcome}
  {nodes : List Pair}

/-- A text runs through a part of the grammar in one way only. -/
theorem Runs.unique (runs : Runs whole atomic peg text outcome)
    (runsToo : Runs whole atomic peg text other) : outcome = other := by
  -- Each part is followed through on its own, and what fails on
  -- one side cannot succeed on the other.
  induction runs generalizing other with
  | terminal => cases runsToo; rfl
  | call _ ih =>
    cases runsToo with
    | call inner => rw [ih inner]
  | bothFails _ ih =>
    cases runsToo with
    | bothFails _ => rfl
    | both front _ => exact absurd (ih front) (by simp)
  | both _ _ ihFront ihBack =>
    cases runsToo with
    | bothFails fails => exact absurd (ihFront fails) (by simp)
    | both front back =>
      obtain ⟨rfl, rfl⟩ := Prod.mk.inj (Option.some.inj (ihFront front))
      rw [ihBack back]
  | eitherFirst _ ih =>
    cases runsToo with
    | eitherFirst found => exact ih found
    | eitherSecond fails _ => exact absurd (ih fails) (by simp)
  | eitherSecond _ _ ihFails ihOther =>
    cases runsToo with
    | eitherFirst found => exact absurd (ihFails found) (by simp)
    | eitherSecond _ second => exact ihOther second
  | maybe _ ih =>
    cases runsToo with
    | maybe inner => rw [ih inner]
  | absent _ ih =>
    cases runsToo with
    | absent inner => rw [ih inner]
  | never _ ih =>
    cases runsToo with
    | never _ => rfl
    | many once _ => exact absurd (ih once) (by simp)
  | many _ _ ihOnce ihOthers =>
    cases runsToo with
    | never fails => exact absurd (ihOnce fails) (by simp)
    | many once others =>
      obtain ⟨rfl, rfl⟩ := Prod.mk.inj (Option.some.inj (ihOnce once))
      rw [ihOthers others]
  | stops _ ih =>
    cases runsToo with
    | stops _ => rfl
    | again once _ => exact absurd (ih once) (by simp)
  | again _ _ ihOnce ihOthers =>
    cases runsToo with
    | stops fails => exact absurd (ihOnce fails) (by simp)
    | again once others =>
      obtain ⟨rfl, rfl⟩ := Prod.mk.inj (Option.some.inj (ihOnce once))
      rw [ihOthers others]

/-- Nodes whose texts lie in a text one behind the other, with anything around them. -/
inductive LieIn : List Pair → List Char → Prop
  /-- No node takes no part of the text. -/
  | nil (text : List Char) : LieIn [] text
  /-- The others lie behind the text of the first. -/
  | cons {node : Pair} {nodes : List Pair} {text : List Char} (before : List Char)
      (others : LieIn nodes text) : LieIn (node :: nodes) (before ++ (node.text ++ text))

namespace LieIn

variable {more : List Pair} {tail : List Char} {node : Pair}

/-- Nodes lie in a text with more in front of it. -/
theorem prepend (lie : LieIn nodes text) (before : List Char) : LieIn nodes (before ++ text) := by
  -- What is in front joins what stands before the first node.
  cases lie with
  | nil => exact .nil _
  | cons between others => exact List.append_assoc before between _ ▸ .cons (before ++ between) others

/-- Nodes of one text lie in front of those of the text behind it. -/
theorem append (lie : LieIn nodes text) (lieToo : LieIn more tail) :
    LieIn (nodes ++ more) (text ++ tail) := by
  -- The induction is on the nodes in front, whose text ends where the other begins.
  induction lie with
  | nil text => exact lieToo.prepend text
  | cons before others ih => simpa using LieIn.cons before ih

/-- Nodes that lie in the texts of others lie, all together, where those do. -/
theorem flatMap {parts : Pair → List Pair} (lie : LieIn nodes text)
    (inside : ∀ node ∈ nodes, LieIn (parts node) node.text) :
    LieIn (nodes.flatMap parts) text := by
  induction lie with
  | nil text => exact .nil text
  | cons before others ih =>
    -- Whatever lies in the text of the first node lies there, in front of the rest.
    obtain ⟨first, rest⟩ := List.forall_mem_cons.mp inside
    exact (first.append (ih rest)).prepend before

/-- Some of the nodes lie where all of them do. -/
theorem filter {keep : Pair → Bool} (lie : LieIn nodes text) : LieIn (nodes.filter keep) text := by
  induction lie with
  | nil text => exact .nil text
  | @cons node _ _ before others ih =>
    rw [List.filter_cons]
    -- A node that is left out belongs to what stands between the others.
    split
    · exact .cons before ih
    · exact (ih.prepend node.text).prepend before

end LieIn

/-- A node whose parts lie in its text, and so do the parts of each of them. -/
inductive Pair.Placed : Pair → Prop
  /-- The parts lie in the text, and are placed themselves. -/
  | intro {node : Pair} (lie : LieIn node.inner node.text) (inside : ∀ part ∈ node.inner, part.Placed) :
      node.Placed

/-- What was taken of a text is its front, and the nodes that were left lie there. -/
def Takes (text : List Char) (result : List Char × List Pair) : Prop :=
  ∃ front, text = front ++ result.1 ∧ LieIn result.2 front ∧ ∀ node ∈ result.2, node.Placed

namespace Takes

variable {result : List Char × List Pair} {middle : List Char}

/-- Nothing may be taken. -/
theorem nothing (text : List Char) : Takes text (text, []) :=
  ⟨[], rfl, .nil [], by simp⟩

/-- What is taken behind a front is taken with it. -/
theorem prepend (takes : Takes text result) (before : List Char) :
    Takes (before ++ text) result := by
  obtain ⟨front, rfl, lie, placed⟩ := takes
  exact ⟨before ++ front, (List.append_assoc before front _).symm, lie.prepend before, placed⟩

/-- What is taken behind a gap is taken with the gap. -/
theorem ofGap (takes : Takes (gap atomic text) result) : Takes text result := by
  unfold gap at takes
  -- Inside of an atomic rule there is no gap, and elsewhere it is space.
  split at takes
  · exact takes
  · obtain ⟨space, parts⟩ : skipSpace text <:+ text := List.dropWhile_suffix isSpace
    exact parts ▸ takes.prepend space

/-- What one part takes and what the next one takes lie behind each other. -/
theorem precede (takes : Takes text (middle, nodes)) (takesToo : Takes middle result) :
    Takes text (precede nodes result) := by
  obtain ⟨front, rfl, lie, placed⟩ := takes
  obtain ⟨more, rfl, lieToo, placedToo⟩ := takesToo
  refine ⟨front ++ more, (List.append_assoc front more _).symm, lie.append lieToo, ?_⟩
  intro node member
  exact (List.mem_append.mp member).elim (placed node) (placedToo node)

/-- Parts of the nodes that were left lie where those do. -/
theorem inner (takes : Takes text (rest, nodes)) (keep : Pair → Bool) :
    Takes text (rest, nodes.flatMap fun node => node.inner.filter keep) := by
  -- Every node is placed, so its parts lie in its text, and that lies in the front.
  obtain ⟨front, parts, lie, placed⟩ := takes
  refine ⟨front, parts, lie.flatMap fun node member => ?_, fun part member => ?_⟩
  · obtain ⟨inside, _⟩ := placed node member
    exact inside.filter
  · obtain ⟨node, nodeMember, kept⟩ := List.mem_flatMap.mp member
    obtain ⟨_, inside⟩ := placed node nodeMember
    exact inside part (List.mem_filter.mp kept).1

/-- The nodes that were left lie in the whole text. -/
theorem lieIn (takes : Takes text (rest, nodes)) : LieIn nodes text := by
  -- The rest holds no nodes.
  obtain ⟨front, rfl, lie, _⟩ := takes
  have behind := lie.append (.nil rest)
  rwa [List.append_nil] at behind

/-- A rule takes what its body takes. -/
theorem enclose {rule : Rule} (takes : Takes text result) :
    Takes text (rule.enclose atomic text result) := by
  obtain ⟨rest, inner⟩ := result
  simp only [Rule.enclose]
  -- A silent rule leaves the nodes as they are, and inside of an atomic rule none is left.
  split
  · exact takes
  · obtain ⟨front, rfl, lie, placed⟩ := takes
    split
    · exact ⟨front, rfl, .nil front, by simp⟩
    · -- The text of the node is all that was taken, and its parts lie in there.
      have whole : taken (front ++ rest) rest = front := by simp [taken]
      have alone : LieIn [⟨rule, front, inner⟩] ([] ++ (front ++ [])) := .cons [] (.nil [])
      rw [List.nil_append, List.append_nil] at alone
      rw [whole]
      exact ⟨front, rfl, alone, List.forall_mem_singleton.mpr (.intro lie placed)⟩

end Takes

/-- What follows a smallest part is an end of the text. -/
theorem Terminal.takes {terminal : Terminal} (found : terminal.skip whole text = some rest) :
    Takes text (rest, []) := by
  -- Nodes are left by rules only, so the text is all there is to look at.
  have suffix : rest <:+ text := by
    cases terminal <;> simp only [skip] at found
    case character belongs =>
      split at found
      · contradiction
      · split at found
        · exact Option.some.inj found ▸ List.suffix_cons _ _
        · contradiction
    case finish =>
      split at found
      · exact Option.some.inj found ▸ List.nil_suffix
      · contradiction
    case start =>
      split at found
      · exact Option.some.inj found ▸ List.suffix_refl text
      · contradiction
    -- A word is skipped by dropping as many characters as it has.
    all_goals
      split at found
      · exact Option.some.inj found ▸ List.drop_suffix _ text
      · contradiction
  obtain ⟨front, parts⟩ := suffix
  exact ⟨front, parts.symm, .nil front, by simp⟩

/-- What a part of the grammar takes is the front of the text, and
the nodes that it leaves lie there. -/
theorem Runs.takes (runs : Runs whole atomic peg text outcome) {result : List Char × List Pair}
    (found : result ∈ outcome) : Takes text result := by
  -- The induction is on the run, of which every step takes on where the last one ended.
  induction runs generalizing result with
  | terminal =>
    obtain ⟨rest, skipped, rfl⟩ := Option.map_eq_some_iff.mp found
    exact Terminal.takes skipped
  | call _ ih =>
    obtain ⟨inner, innerFound, rfl⟩ := Option.map_eq_some_iff.mp found
    exact (ih innerFound).enclose
  -- A run that fails takes nothing that could be found.
  | bothFails _ _ => contradiction
  | both _ _ ihFront ihBack =>
    -- The second part goes on behind the gap, which is taken with it.
    obtain ⟨back, backFound, rfl⟩ := Option.map_eq_some_iff.mp found
    exact (ihFront rfl).precede (ihBack backFound).ofGap
  | eitherFirst _ ih => exact ih found
  | eitherSecond _ _ _ ihOther => exact ihOther found
  | @maybe _ _ text outcome _ ih =>
    obtain rfl := Option.some.inj found
    -- A part that fails takes nothing, and one that does not takes what it takes.
    cases outcome with
    | none => exact .nothing text
    | some inner => exact ih rfl
  | absent _ _ =>
    -- Looking ahead takes nothing even where it succeeds.
    split at found
    · contradiction
    · exact Option.some.inj found ▸ .nothing _
  | never _ _ => exact Option.some.inj found ▸ .nothing _
  | many _ _ ihOnce ihOthers =>
    obtain ⟨others, othersFound, rfl⟩ := Option.map_eq_some_iff.mp found
    exact (ihOnce rfl).precede (ihOthers othersFound)
  | stops _ _ => exact Option.some.inj found ▸ .nothing _
  | again _ _ ihOnce ihOthers =>
    obtain ⟨others, othersFound, rfl⟩ := Option.map_eq_some_iff.mp found
    exact (ihOnce rfl).ofGap.precede (ihOthers othersFound)

end RecordFilter.Expression
