import RecordFilter.Proofs.Expression.Recognition

/-! What becomes of a text: it is refused by the grammar, or for one part of it, or taken apart. -/

namespace RecordFilter

open Expression

/-- How taking the tree of a text apart can fail. -/
inductive TreeError
  /-- A node of another rule stands where one of a given rule was expected. -/
  | unexpectedRule (expected actual : Rule)
  /-- A node that is no key stands where a key was expected. -/
  | unexpectedKey (actual : Rule)
  /-- A quoted key or an operand is no document. -/
  | invalidLiteral (text : String)
  /-- A node is missing. -/
  | endOfInput
deriving DecidableEq

namespace Expression.Pair

/-- Asks for the rule of a node. -/
def expect (node : Pair) (rule : Rule) : Except TreeError Unit :=
  if node.rule = rule then .ok () else .error (.unexpectedRule rule node.rule)

/-- The operand that a node denotes. -/
def operand (node : Pair) : Except TreeError Json := do
  node.expect .literal
  match Json.read node.text with
  | some value => return value
  | none => throw (.invalidLiteral (String.ofList node.text))

/-- The key that a node denotes. -/
def name (node : Pair) : Except TreeError String :=
  match node.rule with
  | .identifier => return String.ofList node.text
  | .string =>
    match Json.read node.text with
    | some (.string name) => return name
    | _ => throw (.invalidLiteral (String.ofList node.text))
  | other => throw (.unexpectedKey other)

/-- The condition that the node of a clause denotes; a missing operand counts as null. -/
def condition (node : Pair) : Except TreeError Condition := do
  node.expect .clause
  match node.inner with
  | [] => throw .endOfInput
  | key :: parts =>
    let name ← key.name
    match parts with
    | [] => throw .endOfInput
    | operator :: operands =>
      operator.expect .operator
      let operand ← match operands with
        | [] => pure .null
        | literal :: _ => literal.operand
      return ⟨name, String.ofList operator.text, operand⟩

/-- Adds the condition of a clause: the first one of a later group opens the group. -/
def addClause (group : Nat) (builder : ConditionBuilder) (place : Pair × Nat) :
    Except TreeError ConditionBuilder := do
  let condition ← place.1.condition
  return if 0 < group && place.2 == 0 then builder.orWhere condition else builder.andWhere condition

/-- Adds the conditions of a group. -/
def addGroup (builder : ConditionBuilder) (place : Pair × Nat) :
    Except TreeError ConditionBuilder := do
  place.1.expect .conjunction
  (place.1.without .andWord).zipIdx.foldlM (addClause place.2) builder

/-- The builder that the node of a disjunction makes. -/
def builder (node : Pair) : Except TreeError ConditionBuilder := do
  node.expect .disjunction
  (node.without .orWord).zipIdx.foldlM addGroup .new

/-- The set of conditions that the nodes of a whole text make. -/
def conditionSet (nodes : List Pair) : Except TreeError ConditionSet :=
  match nodes with
  | [] => throw .endOfInput
  | expression :: _ =>
    match expression.inner with
    | [] => throw .endOfInput
    -- A text of space alone has no groups.
    | first :: _ =>
      if first.rule = .disjunction then first.builder.map ConditionBuilder.build
      else return .empty

/-- The nodes of a rule right inside of a node. -/
def children (rule : Rule) (node : Pair) : List Pair :=
  node.inner.filter (·.rule == rule)

/-- The nodes of the clauses, in the order in which they stand. -/
def clauses (nodes : List Pair) : List Pair :=
  ((nodes.flatMap (children .disjunction)).flatMap (children .conjunction)).flatMap
    (children .clause)

/-- The parts of a clause that are to be read as documents: a quoted key, and an operand. -/
def documents (clause : Pair) : List Pair :=
  clause.inner.filter fun part => part.rule == .string || part.rule == .literal

/-- Whether the text of a node is no document. -/
def isInvalid (node : Pair) : Bool :=
  (Json.read node.text).isNone

/-- The first part of a clause that should be a document and is none. -/
def firstInvalid? (nodes : List Pair) : Option Pair :=
  ((clauses nodes).flatMap documents).find? isInvalid

end Expression.Pair

/-- A quoted text is no other document than a string. -/
theorem Json.exists_string_of_read {rest : List Char} {value : Json}
    (found : Json.read ('"' :: rest) = some value) : ∃ name, value = .string name := by
  obtain ⟨written, read, denotes⟩ := Option.bind_eq_some_iff.mp found
  obtain ⟨before, front, after, blank, _, spelled, parts⟩ := Written.read_eq_some_iff.mp read
  -- No space stands in front of the mark, and nothing else than a string begins with one.
  cases before with
  | cons space more =>
    obtain ⟨rfl, _⟩ := List.cons.inj parts
    exact absurd (blank '"' (by simp)) (by decide)
  | nil =>
    cases spelled with
    | string _ =>
      rw [Written.value?] at denotes
      obtain ⟨name, _, rfl⟩ := Option.map_eq_some_iff.mp denotes
      exact ⟨name, rfl⟩
    | number spelled =>
      -- A number opens with a digit or a minus, not with a mark.
      obtain ⟨first, more, rfl, opens⟩ := spelled.opens
      obtain ⟨rfl, _⟩ := List.cons.inj parts
      exact absurd opens (by decide)
    | _ => exact absurd (List.cons.inj parts).1 (by decide)

namespace Expression.Pair

/-- A node of the rule that was asked for is let through. -/
theorem expect_of_rule {node : Pair} {rule : Rule} (same : node.rule = rule) :
    node.expect rule = .ok () :=
  if_pos same

section Decodes

variable {α β γ δ : Type} {parts more : List Pair}

/-- Taking a tree apart and decoding what it shows give corresponding results, up to the first part
that should be a document and is none, which both report. -/
def Decodes (parts : List Pair) (view : α → β) (walked : Except TreeError β)
    (decoded : Except ExpressionError α) : Prop :=
  match parts.find? isInvalid with
  | some part =>
    walked = .error (.invalidLiteral (String.ofList part.text)) ∧
      decoded = .error (.invalidLiteral (String.ofList part.text))
  | none => ∃ result, walked = .ok (view result) ∧ decoded = .ok result

/-- Where nothing is to be read as a document, nothing fails. -/
theorem Decodes.ok {view : α → β} {walked : β} {result : α} (same : walked = view result) :
    Decodes [] view (.ok walked) (.ok result) :=
  ⟨result, congrArg Except.ok same, rfl⟩

/-- A second step goes on where the first has not failed. -/
theorem Decodes.bind {view : α → β} {viewToo : γ → δ} {walked : Except TreeError β}
    {decoded : Except ExpressionError α} {walk : β → Except TreeError δ}
    {decode : α → Except ExpressionError γ} (first : Decodes parts view walked decoded)
    (second : ∀ result, Decodes more viewToo (walk (view result)) (decode result)) :
    Decodes (parts ++ more) viewToo (walked >>= walk) (decoded >>= decode) := by
  unfold Decodes at first ⊢
  -- A bad part of the first step comes before all those of the second.
  rw [List.find?_append]
  cases found : parts.find? isInvalid with
  | some part =>
    rw [found] at first
    obtain ⟨rfl, rfl⟩ := first
    exact ⟨rfl, rfl⟩
  | none =>
    rw [found] at first
    obtain ⟨result, rfl, rfl⟩ := first
    exact second result

/-- What was decoded may be put into something else, seen as before. -/
theorem Decodes.remake {view : α → β} {viewToo : γ → β} {make : α → γ} {walked : Except TreeError β}
    {decoded : Except ExpressionError α} (decodes : Decodes parts view walked decoded)
    (same : ∀ result, viewToo (make result) = view result) :
    Decodes parts viewToo walked (decoded >>= fun result => .ok (make result)) := by
  unfold Decodes at decodes ⊢
  cases found : parts.find? isInvalid with
  | some part =>
    rw [found] at decodes
    obtain ⟨rfl, rfl⟩ := decodes
    exact ⟨rfl, rfl⟩
  | none =>
    rw [found] at decodes
    -- Where nothing is bad, the result is put into its new shape on one side only.
    obtain ⟨result, rfl, rfl⟩ := decodes
    exact ⟨make result, congrArg Except.ok (same result).symm, rfl⟩

end Decodes

/-- A part that should be a document decides alone whether it is one. -/
theorem decodes_single {α : Type} {part : Pair} {walked : Except TreeError α}
    {decoded : Except ExpressionError α}
    (invalid : Json.read part.text = none →
      walked = .error (.invalidLiteral (String.ofList part.text)) ∧
        decoded = .error (.invalidLiteral (String.ofList part.text)))
    (valid : ∀ value, Json.read part.text = some value →
      ∃ result, walked = .ok result ∧ decoded = .ok result) :
    Decodes [part] id walked decoded := by
  unfold Decodes
  cases read : Json.read part.text with
  | none => simpa [isInvalid, read] using invalid read
  | some value => simpa [isInvalid, read] using valid value read

/-- A key is decoded as its node is. -/
theorem decodes_name {key : WrittenKey} (marked : key.Marked) :
    Decodes ([key.node].filter fun part => part.rule == .string || part.rule == .literal) id
      key.node.name key.decode := by
  cases key with
  | bare name => exact .ok rfl
  | quoted text =>
    -- A quoted key is the one kind that is read as a document, and then it is a text.
    obtain ⟨more, rfl⟩ := marked
    have alone : ([(WrittenKey.quoted ('"' :: more)).node].filter fun part =>
        part.rule == .string || part.rule == .literal) = [⟨.string, '"' :: more, []⟩] := rfl
    rw [alone]
    refine decodes_single (fun read => ?_) fun value read => ?_
    · simp only at read
      simp [WrittenKey.node, name, WrittenKey.decode, read, throw, throwThe, MonadExceptOf.throw]
    · obtain ⟨name, rfl⟩ := Json.exists_string_of_read read
      simp only at read
      simp [WrittenKey.node, Pair.name, WrittenKey.decode, read, Pure.pure, Except.pure]

/-- An operand is decoded as its node is. -/
theorem decodes_operand {literal : List Char} {inner : List Pair} :
    Decodes [⟨.literal, literal, inner⟩] id (operand ⟨.literal, literal, inner⟩)
      (WrittenClause.decodeOperand (some literal)) := by
  refine decodes_single (fun read => ?_) fun value read => ?_
  · simp only at read
    simp [operand, expect_of_rule, WrittenClause.decodeOperand, read, throw, throwThe,
      MonadExceptOf.throw, Bind.bind, Except.bind]
  · simp only at read
    simp [operand, expect_of_rule, WrittenClause.decodeOperand, read, Bind.bind, Except.bind,
      Pure.pure, Except.pure]

/-- A clause is decoded as its node is. -/
theorem decodes_condition {node : Pair} {clause : WrittenClause} (shows : Shows node clause) :
    Decodes node.documents id node.condition clause.decode := by
  -- A clause has one part to decode behind its key, or none.
  cases shows with
  -- Without an operand the key alone is decoded.
  | @alone text key operator marked =>
    have parts : Decodes (_ ++ []) id
        (key.node.name >>= fun name => .ok (⟨name, String.ofList operator, .null⟩ : Condition))
        (key.decode >>= fun name => .ok (⟨name, String.ofList operator, .null⟩ : Condition)) :=
      (decodes_name marked).bind fun name => .ok rfl
    cases key <;> exact parts
  | @operand text key operator literal inner marked =>
    have parts : Decodes (_ ++ ([⟨.literal, literal, inner⟩] ++ [])) id
        (key.node.name >>= fun name => operand ⟨.literal, literal, inner⟩ >>= fun value =>
          .ok (⟨name, String.ofList operator, value⟩ : Condition))
        (key.decode >>= fun name => WrittenClause.decodeOperand (some literal) >>= fun value =>
          .ok (⟨name, String.ofList operator, value⟩ : Condition)) :=
      (decodes_name marked).bind fun name => decodes_operand.bind fun value => .ok rfl
    cases key <;> exact parts

/-- A clause is added by its condition, in the group that it belongs to. -/
theorem foldlM_addClause {group start : Nat} {node : Pair} {nodes : List Pair}
    {builder : ConditionBuilder} :
    ((node :: nodes).zipIdx start).foldlM (addClause group) builder =
      node.condition >>= fun condition => (nodes.zipIdx (start + 1)).foldlM (addClause group)
        (if 0 < group && start == 0 then builder.orWhere condition
          else builder.andWhere condition) := by
  rw [List.zipIdx_cons, List.foldlM_cons, addClause]
  cases node.condition <;> rfl

/-- The clauses of a group are decoded as their nodes are, where none of them opens a group. -/
theorem decodes_clauses {group start : Nat} {nodes : List Pair} {written : List WrittenClause}
    (shows : List.Forall₂ Shows nodes written) (builder : ConditionBuilder)
    (joins : group = 0 ∨ 0 < start) :
    Decodes (nodes.flatMap documents) (fun conditions => conditions.foldl .andWhere builder)
      ((nodes.zipIdx start).foldlM (addClause group) builder) (WrittenClause.decodeGroup written) := by
  -- The induction is on the clauses, with the builder as far as it has come.
  induction shows generalizing builder start with
  | nil => exact .ok rfl
  | @cons node clause nodes written show_ _ ih =>
    -- Only the first clause of a later group would open one.
    have opensNone : (0 < group && start == 0) = false := by
      obtain rfl | later := joins
      · rfl
      · simp [Nat.ne_of_gt later]
    rw [List.flatMap_cons, foldlM_addClause]
    simp only [opensNone, Bool.false_eq_true, if_false]
    exact (decodes_condition show_).bind fun condition =>
      (ih (builder.andWhere condition) (.inr (Nat.succ_pos start))).remake fun _ => rfl

/-- What shows a group is taken for one, and its clauses are added in turn. -/
theorem addGroup_of_shows {place : Nat} {node : Pair} {written : List WrittenClause}
    {builder : ConditionBuilder} (shows : ShowsGroup node written) :
    addGroup builder (node, place) =
      (node.without .andWord).zipIdx.foldlM (addClause place) builder := by
  rw [addGroup, expect_of_rule shows.1]
  rfl

/-- A later group is decoded as its node is, and its first condition opens it. -/
theorem decodes_group {place : Nat} {node : Pair} {written : List WrittenClause}
    (shows : ShowsGroup node written) (builder : ConditionBuilder) (later : 0 < place) :
    Decodes ((node.without .andWord).flatMap documents) builder.spliceGroup
      (addGroup builder (node, place)) (WrittenClause.decodeGroup written) := by
  rw [addGroup_of_shows shows]
  obtain ⟨_, clausesShow⟩ := shows
  -- The first clause opens the group, and the others are added to it as they come.
  generalize node.without .andWord = nodes at clausesShow ⊢
  cases clausesShow with
  | nil => exact .ok rfl
  | cons first others =>
    have opens : (0 < place && 0 == 0) = true := by simp [later]
    rw [List.flatMap_cons, foldlM_addClause]
    simp only [opens, if_true]
    exact (decodes_condition first).bind fun condition =>
      (decodes_clauses others (builder.orWhere condition) (.inr Nat.one_pos)).remake fun _ => rfl

/-- Later groups are decoded as their nodes are. -/
theorem decodes_groups {start : Nat} {nodes : List Pair} {written : List (List WrittenClause)}
    (shows : List.Forall₂ ShowsGroup nodes written) (builder : ConditionBuilder) (later : 0 < start) :
    Decodes (nodes.flatMap fun node => (node.without .andWord).flatMap documents)
      (fun groups => groups.foldl .spliceGroup builder) ((nodes.zipIdx start).foldlM addGroup builder)
      (WrittenClause.decodeGroups written) := by
  -- The induction is on the groups, of which each is spliced into the builder of those before it.
  induction shows generalizing builder start with
  | nil => exact .ok rfl
  | cons group _ ih =>
    rw [List.flatMap_cons, List.zipIdx_cons, List.foldlM_cons]
    exact (decodes_group group builder later).bind fun conditions =>
      (ih (builder.spliceGroup conditions) (Nat.lt_succ_of_lt later)).remake fun _ => rfl

/-- The groups of a text are decoded as the node of its disjunction is. -/
theorem decodes_builder {node : Pair} {written : List (List WrittenClause)}
    (rule_eq : node.rule = .disjunction)
    (shows : List.Forall₂ ShowsGroup (node.without .orWord) written) :
    Decodes ((node.without .orWord).flatMap fun group => (group.without .andWord).flatMap documents)
      (fun groups => ConditionBuilder.new.splice ⟨groups⟩) node.builder
      (WrittenClause.decodeGroups written) := by
  have walked : node.builder = (node.without .orWord).zipIdx.foldlM addGroup .new := by
    rw [builder, expect_of_rule rule_eq]
    rfl
  rw [walked]
  generalize node.without .orWord = nodes at shows ⊢
  cases shows with
  | nil => exact .ok rfl
  | cons first others =>
    rw [List.flatMap_cons, List.zipIdx_cons, List.foldlM_cons, addGroup_of_shows first]
    -- The conditions of the first group join what the new builder opens for them.
    exact (decodes_clauses first.2 .new (.inl rfl)).bind fun conditions =>
      (decodes_groups others _ Nat.one_pos).remake fun _ => rfl

/-- Where all nodes but those of one rule are of another, those are the ones that are left. -/
theorem children_eq_without {node : Pair} {rule other : Rule} (differs : rule ≠ other)
    (all : ∀ part ∈ node.without other, part.rule = rule) :
    node.children rule = node.without other := by
  refine List.filter_congr fun part member => ?_
  -- A node of the rule that is left out is not of the other rule either.
  by_cases same : part.rule = other
  · simp [same, differs.symm]
  · have inside : part ∈ node.without other := List.mem_filter.mpr ⟨member, by simpa using same⟩
    simp [all part inside, differs]

/-- The node of a group holds those of its clauses. -/
theorem children_of_showsGroup {node : Pair} {written : List WrittenClause}
    (shows : ShowsGroup node written) : node.children .clause = node.without .andWord := by
  refine children_eq_without (by decide) ?_
  exact ((List.forall₂_and_left _ _).mp (shows.2.imp fun _ _ clause => ⟨clause.rule_eq, clause⟩)).1

/-- The node of a disjunction holds those of its groups. -/
theorem children_of_shows {node : Pair} {written : List (List WrittenClause)}
    (shows : List.Forall₂ ShowsGroup (node.without .orWord) written) :
    node.children .conjunction = node.without .orWord ∧
      ∀ group ∈ node.without .orWord, group.children .clause = group.without .andWord := by
  -- Both facts are read off what each of the groups shows.
  have isGroup := (List.forall₂_and_left _ _).mp (shows.imp fun _ _ group => ⟨group.1, group⟩)
  have holds := (List.forall₂_and_left _ _).mp
    (shows.imp fun _ _ group => ⟨children_of_showsGroup group, group⟩)
  exact ⟨children_eq_without (by decide) isGroup.1, holds.1⟩

/-- A builder that takes a set over builds just that set, if no group of it is empty. -/
theorem build_splice_new {groups : List ConditionGroup} (inhabited : ∀ group ∈ groups, group ≠ []) :
    (ConditionBuilder.new.splice ⟨groups⟩).build = ⟨groups⟩ := by
  -- Taking over drops empty groups, and so does building, but there are none.
  rw [ConditionBuilder.new_eq_ofGroups, ConditionBuilder.splice_ofGroups_nil inhabited]
  simpa [ConditionBuilder.build, ConditionBuilder.ofGroups, ConditionSet.withoutEmpty] using inhabited

/-- The set of a whole text is decoded as the node of the text is. -/
theorem decodes_conditionSet {tree : Pair} {written : List (List WrittenClause)}
    (shows : ShowsExpression tree written) (inhabited : ∀ group ∈ written, group ≠ []) :
    Decodes ((clauses [tree]).flatMap documents) id (conditionSet [tree])
      ((WrittenClause.decodeGroups written).map fun decoded => (⟨decoded⟩ : ConditionSet)) := by
  cases shows with
  | empty => exact .ok rfl
  | @inhabited text ending disjunction groups rule_eq shows =>
    obtain ⟨groupNodes, clauseNodes⟩ := children_of_shows shows
    -- The parts of all clauses are those of the groups inside the one disjunction.
    have nodes : (clauses [⟨.expression, text, [disjunction, ⟨.endOfInput, ending, []⟩]⟩]).flatMap
        documents = (disjunction.without .orWord).flatMap fun group =>
          (group.without .andWord).flatMap documents := by
      have top : children .disjunction
          ⟨.expression, text, [disjunction, ⟨.endOfInput, ending, []⟩]⟩ = [disjunction] := by
        simp [children, rule_eq]
      simp only [clauses, List.flatMap_cons, List.flatMap_nil, List.append_nil, top, groupNodes,
        List.flatMap_assoc]
      exact List.flatMap_congr fun group member => by rw [clauseNodes group member]
    have walked : conditionSet [⟨.expression, text, [disjunction, ⟨.endOfInput, ending, []⟩]⟩] =
        disjunction.builder.map ConditionBuilder.build := by
      simp only [conditionSet, if_pos rule_eq]
    have parts := decodes_builder rule_eq shows
    rw [nodes, walked]
    unfold Decodes at parts ⊢
    split at parts
    · obtain ⟨walk, decode⟩ := parts
      rw [walk, decode]
      exact ⟨rfl, rfl⟩
    · obtain ⟨decoded, walk, decode⟩ := parts
      have denoted := WrittenClause.decodeGroups_eq_ok_iff.mp decode
      rw [walk, decode]
      -- Nothing is dropped when the set is built, since no group is empty.
      exact ⟨⟨decoded⟩, congrArg Except.ok (build_splice_new (denoted.inhabited inhabited)), rfl⟩

end Expression.Pair

/-- No group that is read is empty. -/
theorem Expression.readGroups_inhabited {text : List Char} {groups : List (List WrittenClause)}
    (read : readGroups text = some groups) : ∀ group ∈ groups, group ≠ [] := by
  by_cases blank : OnlySpace text
  · have none_ : readClause [] = none := by decide
    rw [readGroups, skipSpace_eq_nil_iff.mpr blank, none_] at read
    -- A text of space alone has no groups at all.
    obtain rfl := Option.some.inj read
    simp
  · obtain ⟨first, _, others, _, _, _, _, rfl⟩ := (readGroups_eq_some_iff blank).mp read
    exact grouped_inhabited first others

namespace Expression.Follows

variable {text : List Char} {nodes others : List Pair}

/-- The parts of clauses that are to be read as documents lie in the text in their order. -/
theorem lieIn (follows : Follows text nodes) :
    LieIn ((Pair.clauses nodes).flatMap Pair.documents) text := by
  obtain ⟨rest, runs⟩ := follows
  -- Each selection of inner nodes keeps their places in the text.
  exact (((((runs.takes rfl).inner _).inner _).inner _).inner _).lieIn

/-- A text leaves one tree at most. -/
theorem unique (follows : Follows text nodes) (followsToo : Follows text others) :
    nodes = others := by
  obtain ⟨_, runs⟩ := follows
  obtain ⟨_, runsToo⟩ := followsToo
  exact (Prod.mk.inj (Option.some.inj (runs.unique runsToo))).2

/-- A text that leaves a tree does not fail. -/
theorem not_fails (follows : Follows text nodes) : ¬Fails text := by
  intro fails
  obtain ⟨_, runs⟩ := follows
  have same := runs.unique fails
  contradiction

/-- The tree of a text is taken apart into what its reader makes of the text. -/
theorem decodes (follows : Follows text nodes) :
    Pair.Decodes ((Pair.clauses nodes).flatMap Pair.documents) id (Pair.conditionSet nodes)
      (ConditionSet.parse text) := by
  have some_ : readGroups text ≠ none := fun none_ => follows.not_fails (fails_of_readGroups none_)
  obtain ⟨groups, read⟩ := Option.ne_none_iff_exists'.mp some_
  -- The reader finds a tree as well, and since a text leaves one tree, it is this one.
  obtain ⟨tree, followsToo, shows⟩ := exists_follows read
  obtain rfl := follows.unique followsToo
  have decoded := Pair.decodes_conditionSet shows (readGroups_inhabited read)
  rwa [ConditionSet.parse, read]

end Expression.Follows

/-- A text leaves a tree exactly when it does not fail. -/
theorem Expression.fails_iff {text : List Char} : Fails text ↔ ∀ nodes, ¬Follows text nodes := by
  refine ⟨fun fails nodes follows => follows.not_fails fails, fun none_ => ?_⟩
  -- The reader decides which of the two it is.
  cases read : readGroups text with
  | none => exact fails_of_readGroups read
  | some groups =>
    obtain ⟨tree, follows, _⟩ := exists_follows read
    exact absurd follows (none_ [tree])

namespace ConditionSet

/-- A text is refused as a whole exactly when it does not follow the grammar. -/
theorem parse_eq_unexpectedToken_iff {text : List Char} :
    parse text = .error .unexpectedToken ↔ Fails text := by
  refine ⟨fun refused => fails_iff.mpr fun nodes follows => ?_, fun fails => ?_⟩
  · have decodes := follows.decodes
    unfold Pair.Decodes at decodes
    rw [refused] at decodes
    -- The tree of a text reports a part of the text, or gives a set.
    split at decodes
    · exact absurd decodes.2 (by simp)
    · obtain ⟨_, _, accepted⟩ := decodes
      contradiction
  · cases read : readGroups text with
    | none => rw [parse, read]
    | some groups =>
      obtain ⟨tree, follows, _⟩ := exists_follows read
      exact absurd fails follows.not_fails

/--
A text is refused as a whole exactly when the grammar fails, and else it leaves a tree that decides:
the first quoted key or operand in it that is no document is reported with its text, and without any
the text is accepted. Taking the tree apart gives the same set or reports the same part, and fails
in no other way.
-/
theorem parse_classified (text : List Char) :
    (parse text = .error .unexpectedToken ↔ Fails text) ∧
    (Fails text ↔ ∀ nodes, ¬Follows text nodes) ∧
    ∀ nodes, Follows text nodes →
      LieIn ((Pair.clauses nodes).flatMap Pair.documents) text ∧
      (∀ literal, parse text = .error (.invalidLiteral literal) ↔
        ∃ part, Pair.firstInvalid? nodes = some part ∧ literal = String.ofList part.text) ∧
      ((∃ set, parse text = .ok set) ↔ Pair.firstInvalid? nodes = none) ∧
      (∀ set, Pair.conditionSet nodes = .ok set ↔ parse text = .ok set) ∧
      ∀ error, Pair.conditionSet nodes = .error error →
        ∃ literal, error = .invalidLiteral literal ∧
          parse text = .error (.invalidLiteral literal) := by
  refine ⟨parse_eq_unexpectedToken_iff, fails_iff, fun nodes follows => ⟨follows.lieIn, ?_⟩⟩
  have decodes := follows.decodes
  unfold Pair.Decodes at decodes
  unfold Pair.firstInvalid?
  -- The first bad part decides everything: it is reported, or there is none and both ways succeed.
  cases found : ((Pair.clauses nodes).flatMap Pair.documents).find? Pair.isInvalid with
  | some part =>
    rw [found] at decodes
    obtain ⟨walked, parsed⟩ := decodes
    simp [walked, parsed, eq_comm]
  | none =>
    rw [found] at decodes
    obtain ⟨set, walked, parsed⟩ := decodes
    simp [walked, parsed]

/-- A clause in which neither the key nor the operand is a document,
in front of another such operand. -/
def invalidClauses : List Char :=
  "a = 1 or \"\\q\" in [1, 007] and b = 08".toList

/-- The key is the first part that is no document, and with a connective
too many nothing is read. -/
theorem parse_classified_key :
    (∃ nodes, Follows invalidClauses nodes ∧
      ∃ part, Pair.firstInvalid? nodes = some part ∧ String.ofList part.text = "\"\\q\"") ∧
    Fails (invalidClauses ++ " and".toList) := by
  have read : readGroups invalidClauses =
      some [[⟨.bare ['a'], ['='], some ['1']⟩],
        [⟨.quoted ['"', '\\', 'q', '"'], ['i', 'n'], some "[1, 007]".toList⟩,
          ⟨.bare ['b'], ['='], some ['0', '8']⟩]] := by
    decide +kernel
  have parsed : parse invalidClauses = .error (.invalidLiteral "\"\\q\"") := by
    rw [parse, read]
    rfl
  have unread : readGroups (invalidClauses ++ " and".toList) = none := by
    decide +kernel
  have refused : parse (invalidClauses ++ " and".toList) = .error .unexpectedToken := by
    rw [parse, unread]
  refine ⟨?_, (parse_classified _).1.mp refused⟩
  obtain ⟨_, _, reports⟩ := parse_classified invalidClauses
  -- The text follows the grammar, although a part of it is no document.
  obtain ⟨tree, follows, _⟩ := exists_follows read
  obtain ⟨_, reported, _⟩ := reports [tree] follows
  obtain ⟨part, first, same⟩ := (reported _).mp parsed
  exact ⟨[tree], follows, part, first, same.symm⟩

end ConditionSet

end RecordFilter
