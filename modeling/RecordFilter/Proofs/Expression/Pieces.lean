import RecordFilter.Proofs.Expression.Connection

/-! An expression is cut into the pieces that its conditions are written
as, and nothing else stands in it. -/

namespace RecordFilter

/-- Pieces that stand in a text one behind the other, with nothing but
space in front of each, up to a rest. -/
inductive Cut : List Char → List (List Char) → List Char → Prop
  /-- Without pieces the whole text is left. -/
  | nil {rest : List Char} : Cut rest [] rest
  /-- The other pieces stand behind the first one. -/
  | cons {space piece text rest : List Char} {others : List (List Char)} (blank : OnlySpace space)
      (behind : Cut text others rest) : Cut (space ++ (piece ++ text)) (piece :: others) rest

/-- A text that holds nothing but given pieces, and space around and between them. -/
def ConsistsOf (text : List Char) (pieces : List (List Char)) : Prop :=
  ∃ rest, Cut text pieces rest ∧ OnlySpace rest

/-- A piece that denotes a key: the key as a word, or a document that is the key as a string. -/
inductive KeyPiece : List Char → String → Prop
  /-- A word is the key itself. -/
  | bare {name : List Char} (some_ : name ≠ [])
      (all : ∀ character ∈ name, isWordCharacter character = true) : KeyPiece name (String.ofList name)
  /-- A text that begins with a quotation mark denotes what it is read as. -/
  | quoted {inner : List Char} {name : String} (read : Json.read ('"' :: inner) = some (.string name)) :
      KeyPiece ('"' :: inner) name

/-- The pieces that denote an operand, of which there is one or none. -/
inductive OperandPieces : List (List Char) → Json → Prop
  /-- Without a piece the operand is null. -/
  | absent : OperandPieces [] .null
  /-- A piece denotes the document that it is read as. -/
  | present {piece : List Char} {value : Json} (read : Json.read piece = some value) :
      OperandPieces [piece] value

/-- The pieces that denote a condition: its key, the token of its operator, and its operand. -/
inductive ConditionPieces : List (List Char) → Condition → Prop
  /-- The token is written as it is. -/
  | intro {key : List Char} {operands : List (List Char)} {condition : Condition}
      (named : KeyPiece key condition.key)
      (token : Expression.IsToken condition.operator.toList)
      (operand : OperandPieces operands condition.operand) :
      ConditionPieces (key :: condition.operator.toList :: operands) condition

/-- A piece that is a connective. -/
inductive ConnectivePiece (connective : Connective) : List Char → Prop
  /-- The doubled sign. -/
  | sign : ConnectivePiece connective connective.sign
  /-- The word, in letters of either case. -/
  | word {letters : List Char} (same : letters.map Char.toLower = connective.word) :
      ConnectivePiece connective letters

/-- The pieces that denote a list of at least one part, with a connective
between any two of them. -/
inductive JoinedPieces {α : Type} (connective : Connective) (denote : List (List Char) → α → Prop) :
    List (List Char) → List α → Prop
  /-- A single part is joined to nothing. -/
  | single {pieces : List (List Char)} {part : α} (only : denote pieces part) :
      JoinedPieces connective denote pieces [part]
  /-- A connective stands behind the first part and in front of the others. -/
  | cons {pieces more : List (List Char)} {between : List Char} {part : α} {others : List α}
      (first : denote pieces part) (joins : ConnectivePiece connective between)
      (rest : JoinedPieces connective denote more others) :
      JoinedPieces connective denote (pieces ++ between :: more) (part :: others)

/-- The pieces that denote a group: those of its conditions, with conjunctions between them. -/
def GroupPieces : List (List Char) → ConditionGroup → Prop :=
  JoinedPieces .conjunction ConditionPieces

/-- The pieces that denote groups: those of each group, with disjunctions between them. -/
def GroupsPieces : List (List Char) → List ConditionGroup → Prop :=
  JoinedPieces .disjunction GroupPieces

/-- The pieces that denote a set, of which the empty one has none. -/
inductive SetPieces : List (List Char) → ConditionSet → Prop
  /-- No piece denotes a condition. -/
  | empty : SetPieces [] .empty
  /-- Any other set is denoted by the pieces of its groups. -/
  | inhabited {pieces : List (List Char)} {groups : List ConditionGroup}
      (groupsPieces : GroupsPieces pieces groups) : SetPieces pieces ⟨groups⟩

namespace Cut

variable {text middle rest : List Char} {pieces more : List (List Char)}

/-- What the pieces in front leave may be cut further. -/
theorem append (front : Cut text pieces middle) (back : Cut middle more rest) :
    Cut text (pieces ++ more) rest := by
  induction front with
  | nil => exact back
  | cons blank _ ih => exact .cons blank (ih back)

/-- A piece that stands behind space is cut off with it. -/
theorem piece {piece : List Char} (parts : skipSpace text = piece ++ rest) : Cut text [piece] rest := by
  obtain ⟨space, blank, whole⟩ := exists_skipSpace text
  rw [whole, parts]
  exact .cons blank .nil

end Cut

namespace Expression

variable {text rest : List Char}

/-- A key that is read is a piece that denotes it. -/
theorem exists_keyPiece {key : WrittenKey} {name : String} (found : readKey text = some (key, rest))
    (decoded : key.decode = .ok name) : ∃ piece, text = piece ++ rest ∧ KeyPiece piece name := by
  -- A key with a quotation mark in front is a document, and any other is a word.
  rcases readKey_parts found with ⟨inner, rfl, rfl⟩ | ⟨word, rfl, rfl, some_, all⟩
  · rw [WrittenKey.decode] at decoded
    split at decoded
    · rename_i read
      obtain rfl := Except.ok.inj decoded
      exact ⟨'"' :: inner, rfl, .quoted read⟩
    · contradiction
  · obtain rfl := Except.ok.inj decoded
    exact ⟨word, rfl, .bare some_ all⟩

/-- A clause that is read is cut into pieces that denote its condition. -/
theorem exists_conditionPieces {clause : WrittenClause} {condition : Condition}
    (found : readClause (skipSpace text) = some (clause, rest))
    (decoded : clause.decode = .ok condition) :
    ∃ pieces, Cut text pieces rest ∧ ConditionPieces pieces condition := by
  obtain ⟨afterKey, afterOperator, keyFound, operatorFound, operandFound⟩ := readClause_parts found
  obtain ⟨named, operatorSame, operandDecoded⟩ := WrittenClause.decode_eq_ok_iff.mp decoded
  obtain ⟨key, keyParts, keyPiece⟩ := exists_keyPiece keyFound named
  obtain ⟨operatorParts, token⟩ := readOperator_parts operatorFound
  have operator : clause.operator = condition.operator.toList := by
    rw [← operatorSame, String.toList_ofList]
  rw [operator] at operatorParts token
  -- Space in front of the key and of the operator is cut off with them.
  have front : Cut text [key, condition.operator.toList] afterOperator :=
    (Cut.piece keyParts).append (.piece operatorParts)
  rcases operandFound with ⟨literal, some_, literalFound⟩ | ⟨none_, rfl⟩
  · rw [some_] at operandDecoded
    have read := WrittenClause.decodeOperand_eq_ok_iff.mp operandDecoded
    exact ⟨_, front.append (.piece (readLiteral_parts literalFound)),
      .intro keyPiece token (.present read)⟩
  · -- A missing operand is null.
    rw [none_] at operandDecoded
    have null : condition.operand = .null := (Except.ok.inj operandDecoded).symm
    exact ⟨_, front, .intro keyPiece token (null ▸ .absent)⟩

/-- A word that is skipped stands in front of what is left, in letters of either case. -/
theorem exists_letters {word : List Char} (skipped : skipWordAnyCase word text = some rest) :
    ∃ letters, text = letters ++ rest ∧ letters.map Char.toLower = word := by
  simp only [skipWordAnyCase] at skipped
  -- As many letters are taken as the word has, and they are compared in small letters.
  split at skipped
  · rename_i found
    obtain rfl := Option.some.inj skipped
    obtain ⟨same, -⟩ := Bool.and_eq_true_iff.mp found
    exact ⟨text.take word.length, (List.take_append_drop _ _).symm, beq_iff_eq.mp same⟩
  · contradiction

/-- A connective that is read is a piece in front of what is left. -/
theorem exists_connectivePiece {connective : Connective}
    (found : readConnective text = some (connective, rest)) :
    ∃ piece, text = piece ++ rest ∧ ConnectivePiece connective piece := by
  unfold readConnective at found
  -- Signs are compared as they are, and words only up to case, so a word is what the text has.
  split at found
  · obtain ⟨rfl, rfl⟩ := Prod.mk.inj (Option.some.inj found)
    exact ⟨_, rfl, .sign⟩
  · obtain ⟨rfl, rfl⟩ := Prod.mk.inj (Option.some.inj found)
    exact ⟨_, rfl, .sign⟩
  · split at found
    · rename_i skipped
      obtain ⟨rfl, rfl⟩ := Prod.mk.inj (Option.some.inj found)
      obtain ⟨letters, parts, same⟩ := exists_letters skipped
      exact ⟨letters, parts, .word same⟩
    · obtain ⟨after, skipped, same⟩ := Option.map_eq_some_iff.mp found
      obtain ⟨rfl, rfl⟩ := Prod.mk.inj same
      obtain ⟨letters, parts, same⟩ := exists_letters skipped
      exact ⟨letters, parts, .word same⟩

end Expression

namespace WrittenClause

variable {first : WrittenClause} {clauses : List WrittenClause} {others : List (List WrittenClause)}
  {conditions : List ConditionGroup}

/-- A clause in front of all others denotes the condition in front of all others. -/
theorem denote_cons (denote : Denote ((first :: clauses) :: others) conditions) :
    ∃ condition group groups, first.decode = .ok condition ∧
      conditions = (condition :: group) :: groups ∧ Denote (clauses :: others) (group :: groups) := by
  obtain ⟨_, groups, groupDenotes, othersDenote, rfl⟩ := List.forall₂_cons_left_iff.mp denote
  obtain ⟨condition, group, decoded, clausesDenote, rfl⟩ := List.forall₂_cons_left_iff.mp groupDenotes
  exact ⟨condition, group, groups, decoded, rfl, .cons clausesDenote othersDenote⟩

/-- A group without clauses denotes one without conditions, and the others denote the others. -/
theorem denote_nil_cons {group : ConditionGroup} {groups : List ConditionGroup}
    (denote : Denote ([] :: others) (group :: groups)) : group = [] ∧ Denote others groups := by
  obtain ⟨none_, othersDenote⟩ := List.forall₂_cons.mp denote
  exact ⟨List.forall₂_nil_left_iff.mp none_, othersDenote⟩

end WrittenClause

/-- A condition that is joined to groups by a conjunction becomes
the first one of the first group. -/
theorem GroupsPieces.cons_conjunction {pieces more : List (List Char)} {between : List Char}
    {condition : Condition} {group : ConditionGroup} {groups : List ConditionGroup}
    (first : ConditionPieces pieces condition) (joins : ConnectivePiece .conjunction between)
    (rest : GroupsPieces more (group :: groups)) :
    GroupsPieces (pieces ++ between :: more) ((condition :: group) :: groups) := by
  -- The condition joins the pieces of the first group, in front of all that is there.
  cases rest with
  | single only => exact .single (.cons first joins only)
  | cons only separates others =>
    -- The groups behind the first one keep their pieces.
    have longer := JoinedPieces.cons (JoinedPieces.cons first joins only) separates others
    rwa [List.append_assoc, List.cons_append] at longer

namespace Expression

variable {text rest : List Char}

/-- Where further clauses are read, a connective and a clause come first, each behind space. -/
theorem readFurther_cons {fuel : Nat} {connective : Connective} {clause : WrittenClause}
    {others : List (Connective × WrittenClause)}
    (read : readFurther fuel text = ((connective, clause) :: others, rest)) :
    ∃ fewer afterConnective afterClause,
      readConnective (skipSpace text) = some (connective, afterConnective) ∧
      readClause (skipSpace afterConnective) = some (clause, afterClause) ∧
      readFurther fewer afterClause = (others, rest) := by
  cases fuel with
  | zero => exact absurd (Prod.mk.inj read).1 (by simp)
  | succ fewer =>
    -- Nothing is read where the connective or the clause behind it is missing.
    rw [readFurther] at read
    split at read
    · exact absurd (Prod.mk.inj read).1 (by simp)
    · rename_i connected
      split at read
      · exact absurd (Prod.mk.inj read).1 (by simp)
      · rename_i clauseFound
        obtain ⟨same, rfl⟩ := Prod.mk.inj read
        obtain ⟨pair, rfl⟩ := List.cons.inj same
        obtain ⟨rfl, rfl⟩ := Prod.mk.inj pair
        exact ⟨fewer, _, _, connected, clauseFound, rfl⟩

/-- A clause and the further ones behind it are cut into pieces that
denote groups, if the clauses do. -/
theorem exists_groupsPieces {fuel : Nat} {first : WrittenClause}
    {others : List (Connective × WrittenClause)} {groups : List ConditionGroup}
    (read : readFurther fuel text = (others, rest))
    (denote : WrittenClause.Denote (grouped first others) groups) :
    ∃ condition pieces, first.decode = .ok condition ∧ Cut text pieces rest ∧
      ∀ front, ConditionPieces front condition → GroupsPieces (front ++ pieces) groups := by
  -- The pieces of the first clause are left open, as a conjunction
  -- puts them into the group behind it.
  induction others generalizing fuel text first groups with
  | nil =>
    obtain rfl := readFurther_nil read
    obtain ⟨condition, group, more, decoded, rfl, behind⟩ := WrittenClause.denote_cons denote
    -- A single clause is a group of one condition, and there is no other group.
    obtain ⟨rfl, none_⟩ := WrittenClause.denote_nil_cons behind
    obtain rfl := List.forall₂_nil_left_iff.mp none_
    refine ⟨condition, [], decoded, .nil, fun front conditionPieces => ?_⟩
    rw [List.append_nil]
    exact .single (.single conditionPieces)
  | cons other others ih =>
    obtain ⟨connective, next⟩ := other
    obtain ⟨fewer, afterConnective, afterClause, connected, clauseFound, further⟩ :=
      readFurther_cons read
    obtain ⟨between, betweenParts, joins⟩ := exists_connectivePiece connected
    cases connective with
    | disjunction =>
      -- The first clause is a group of its own, and the next one opens the groups behind it.
      obtain ⟨condition, group, more, decoded, rfl, behind⟩ := WrittenClause.denote_cons denote
      obtain ⟨rfl, moreDenote⟩ := WrittenClause.denote_nil_cons behind
      obtain ⟨nextCondition, pieces, nextDecoded, cut, joined⟩ := ih further moreDenote
      obtain ⟨nextPieces, nextCut, denoted⟩ := exists_conditionPieces clauseFound nextDecoded
      exact ⟨condition, [between] ++ (nextPieces ++ pieces), decoded,
        (Cut.piece betweenParts).append (nextCut.append cut), fun front conditionPieces =>
          .cons (.single conditionPieces) joins (joined nextPieces denoted)⟩
    | conjunction =>
      -- The first clause joins the group that the next one opens.
      obtain ⟨group, more, cutBehind⟩ := List.exists_cons_of_ne_nil (grouped_ne_nil next others)
      rw [grouped_conjunction, cutBehind, List.modifyHead_cons] at denote
      obtain ⟨condition, conditions, rest, decoded, rfl, behind⟩ := WrittenClause.denote_cons denote
      rw [← cutBehind] at behind
      obtain ⟨nextCondition, pieces, nextDecoded, cut, joined⟩ := ih further behind
      obtain ⟨nextPieces, nextCut, denoted⟩ := exists_conditionPieces clauseFound nextDecoded
      exact ⟨condition, [between] ++ (nextPieces ++ pieces), decoded,
        (Cut.piece betweenParts).append (nextCut.append cut), fun front conditionPieces =>
          .cons_conjunction conditionPieces joins (joined nextPieces denoted)⟩

end Expression

namespace ConditionSet

variable {text : List Char} {set : ConditionSet}

/-- A text of space alone is read as the empty set. -/
theorem parse_of_onlySpace (blank : OnlySpace text) : parse text = .ok .empty := by
  -- Nothing is left that a clause could be read from.
  have none_ : Expression.readClause [] = none := by decide
  have read : Expression.readGroups text = some [] := by
    rw [Expression.readGroups, skipSpace_eq_nil_iff.mpr blank, none_]
    rfl
  rw [parse, read]
  rfl

/-- Any other text that is read consists of pieces that denote the groups. -/
theorem exists_pieces (visible : ¬OnlySpace text) (read : parse text = .ok set) :
    ∃ pieces, ConsistsOf text pieces ∧ GroupsPieces pieces set.groups := by
  obtain ⟨groups, found, denote⟩ := parse_eq_ok_iff.mp read
  obtain ⟨first, afterFirst, others, rest, firstFound, further, blank, rfl⟩ :=
    (Expression.readGroups_eq_some_iff visible).mp found
  -- The clauses behind the first one are cut before that one is put in front of them.
  obtain ⟨condition, pieces, decoded, cut, joined⟩ := Expression.exists_groupsPieces further denote
  obtain ⟨firstPieces, firstCut, denoted⟩ := Expression.exists_conditionPieces firstFound decoded
  exact ⟨firstPieces ++ pieces, ⟨rest, firstCut.append cut, blank⟩, joined firstPieces denoted⟩

/--
A text that is read as a set consists of the pieces that the set is written as, and of space. Each
condition in its place is a key, the token of its operator, and an operand unless that is null, and
connectives stand between conditions of a group and between groups. So no group is empty, and the
set is empty only if the text is nothing but space.
-/
theorem parse_consistsOf (read : parse text = .ok set) :
    (∀ group ∈ set.groups, group ≠ []) ∧
      (∃ pieces, ConsistsOf text pieces ∧ SetPieces pieces set) ∧
      (set.isEmpty = true ↔ OnlySpace text) := by
  by_cases blank : OnlySpace text
  · -- A text of space alone has no pieces.
    obtain rfl := Except.ok.inj (read.symm.trans (parse_of_onlySpace blank))
    exact ⟨by simp [empty], ⟨[], ⟨text, .nil, blank⟩, .empty⟩, iff_of_true rfl blank⟩
  · obtain ⟨some_, inhabited⟩ := parse_inhabited blank read
    obtain ⟨pieces, consists, denoted⟩ := exists_pieces blank read
    refine ⟨inhabited, ⟨pieces, consists, .inhabited denoted⟩, iff_of_false ?_ blank⟩
    -- The first group holds a condition.
    obtain ⟨first, others, parts⟩ := List.exists_cons_of_ne_nil some_
    have firstSome : first ≠ [] := inhabited first (by simp [parts])
    simp [isEmpty, parts, firstSome]

/-- Keys and operators that look like connectives, with one null written and two left out. -/
def confusableText : List Char :=
  " \"and\" or&&null =null\toR\nor and\r".toList

/-- The conditions that the text is read as. -/
def confusableConditions : ConditionSet :=
  ⟨[[⟨"and", "or", .null⟩, ⟨"null", "=", .null⟩], [⟨"or", "and", .null⟩]]⟩

/-- No connective is taken for a key or an operator, nor the other way round. -/
theorem parse_consistsOf_lookalikes :
    parse confusableText = .ok confusableConditions ∧
      (∃ pieces, ConsistsOf confusableText pieces ∧ SetPieces pieces confusableConditions) ∧
      ¬OnlySpace confusableText := by
  have read : parse confusableText = .ok confusableConditions := by cbv
  obtain ⟨-, consists, onlyBlank⟩ := parse_consistsOf read
  exact ⟨read, consists, fun blank => absurd (onlyBlank.mpr blank) (by decide)⟩

end ConditionSet

end RecordFilter
