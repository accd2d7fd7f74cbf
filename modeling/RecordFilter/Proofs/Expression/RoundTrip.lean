import RecordFilter.Proofs.Expression.Operand
import RecordFilter.Proofs.Json.RoundTrip

/-! The text of a set reads back as the set, without its empty groups. -/

namespace RecordFilter

namespace Condition

/-- A condition that an expression can hold and a reader can take out of it again. -/
structure Expressible (condition : Condition) : Prop where
  /-- The operator is one token. -/
  token : Expression.IsToken condition.operator.toList
  /-- The operand nests no deeper than the reader follows. -/
  nesting : condition.operand.depth ≤ Json.nestingLimit
  /-- The objects of the operand keep their members by key. -/
  unique : condition.operand.KeysUnique
  /-- The doubles of the operand survive being written. -/
  doubles : condition.operand.DoublesReadBack

/-- The key of a condition as it is written. -/
def writtenKey (key : String) : WrittenKey :=
  if needsQuotes key.toList then .quoted (Json.quote key) else .bare key.toList

/-- A condition as the clause it is written as. -/
def written (condition : Condition) : WrittenClause :=
  ⟨writtenKey condition.key, condition.operator.toList,
    if condition.omitsOperand then none else some condition.operand.write⟩

end Condition

namespace Expression

variable {rest : List Char} {condition : Condition}

/-- What may follow a clause of a written set: nothing, or a word that joins another clause. -/
def EndsClause (rest : List Char) : Prop :=
  rest = [] ∨ ∃ letter more, rest = ' ' :: letter :: more ∧ (letter = 'a' ∨ letter = 'o')

/-- What follows a clause leaves every class to which no space belongs. -/
theorem EndsClause.leaves (ends : EndsClause rest) {belongs : Char → Bool}
    (space : belongs ' ' = false) : Leaves belongs rest := by
  obtain rfl | ⟨letter, more, rfl, _⟩ := ends
  · exact leaves_nil
  · exact leaves_cons.mpr space

/-- No literal starts behind a clause, so that a missing operand stays missing. -/
theorem EndsClause.readLiteral (ends : EndsClause rest) : readLiteral (skipSpace rest) = none := by
  obtain rfl | ⟨letter, more, rfl, rfl | rfl⟩ := ends <;> rfl

/-- A key is read back as it was written. -/
theorem readKey_keyText (key : String) (rest : List Char) :
    readKey (Condition.keyText key ++ ' ' :: rest) = some (Condition.writtenKey key, ' ' :: rest) := by
  unfold Condition.keyText Condition.writtenKey
  -- The printer and the clause quote the same keys.
  split
  · -- A quoted key is spelled like a string, so its closing mark is found.
    obtain ⟨parts, inner, spelled, _, quoted⟩ := StringPart.exists_quote key
    rw [quoted]
    exact readKey_quoted spelled
  · rename_i bare
    exact readKey_bare (by simpa using bare) (leaves_cons.mpr rfl)

/-- A key denotes itself, quoted or not. -/
theorem decode_writtenKey (key : String) : (Condition.writtenKey key).decode = .ok key := by
  have quoted : Json.read (Json.string key).write = some (.string key) :=
    Json.read_write trivial trivial (Nat.zero_le _)
  rw [Json.write] at quoted
  unfold Condition.writtenKey
  split <;> simp [WrittenKey.decode, quoted]

/-- A condition that is written without its operand has the operand that a missing one denotes. -/
theorem operand_of_omitsOperand (omits : condition.omitsOperand = true) :
    condition.operand = .null := by
  unfold Condition.omitsOperand at omits
  -- Only a null is left out, and only behind the two operators that ask for it.
  cases operand : condition.operand <;> simp_all

/-- The clause that a condition is written as denotes the condition. -/
theorem decode_written (expressible : condition.Expressible) :
    condition.written.decode = .ok condition := by
  refine WrittenClause.decode_eq_ok_iff.mpr ⟨decode_writtenKey _, String.ofList_toList, ?_⟩
  unfold Condition.written
  split
  · rename_i omits
    rw [operand_of_omitsOperand omits]
    rfl
  · exact WrittenClause.decodeOperand_eq_ok_iff.mpr
      (Json.read_write expressible.unique expressible.doubles expressible.nesting)

/-- A condition whose operand is spelled as a document is read up to what may follow a clause. -/
theorem readClause_spelled {document : Written} (token : IsToken condition.operator.toList)
    (spelled : document.Spelled condition.operand.write) (ends : EndsClause rest) :
    readClause (condition.text ++ rest) = some (condition.written, rest) := by
  have named := fun behind => readKey_keyText condition.key (condition.operator.toList ++ behind)
  unfold Condition.text Condition.written
  -- Without an operand the reader must not find one in what follows the clause.
  split
  · have read := readClause_append (named rest) token (ends.leaves (by decide))
    -- What follows begins with a letter that opens no literal.
    rw [ends.readLiteral] at read
    simpa [clauseWith] using read
  · -- The one space in front of the operand is skipped, and none follows it.
    have space : skipSpace (' ' :: (condition.operand.write ++ rest)) =
        condition.operand.write ++ rest := by
      rw [skipSpace_blank, spelled.skipSpace_append]
    have literal := readLiteral_append spelled (ends.leaves (by decide))
    have read := readClause_append (named (' ' :: (condition.operand.write ++ rest))) token
      (leaves_cons.mpr rfl)
    rw [space, literal] at read
    simpa [clauseWith] using read

/-- A written condition is read up to what may follow a clause. -/
theorem readClause_text (expressible : condition.Expressible) (ends : EndsClause rest) :
    readClause (condition.text ++ rest) = some (condition.written, rest) := by
  obtain ⟨document, spelled, _⟩ :=
    Json.exists_written expressible.unique expressible.doubles expressible.nesting
  exact readClause_spelled expressible.token spelled ends

/-- A key starts with a visible character, quoted or not. -/
theorem leaves_text : Leaves isSpace (condition.text ++ rest) := by
  -- A key starts with a quotation mark or a character of a word.
  have keyText : ∀ behind, Leaves isSpace (Condition.keyText condition.key ++ behind) := by
    intro behind
    unfold Condition.keyText
    split
    · exact leaves_cons.mpr rfl
    · rename_i bare
      exact leaves_key (by simpa using bare)
  unfold Condition.text
  split <;> simpa using keyText _

/-- What joins two conditions of a written set. -/
def connectiveText : Connective → List Char
  | .conjunction => [' ', 'a', 'n', 'd', ' ']
  | .disjunction => [' ', 'o', 'r', ' ']

/-- The text of conditions behind the first one. -/
def furtherText (further : List (Connective × Condition)) : List Char :=
  further.flatMap fun (connective, condition) => connectiveText connective ++ condition.text

/-- Further conditions follow a clause with what joins them to it. -/
theorem endsClause_furtherText (further : List (Connective × Condition)) :
    EndsClause (furtherText further) := by
  cases further with
  | nil => exact .inl rfl
  | cons next more =>
    obtain ⟨connective, condition⟩ := next
    cases connective with
    | conjunction => exact .inr ⟨'a', _, rfl, .inl rfl⟩
    | disjunction => exact .inr ⟨'o', _, rfl, .inr rfl⟩

/-- A connective is read up to the space in front of the next condition. -/
theorem readConnective_connectiveText (connective : Connective) :
    readConnective (skipSpace (connectiveText connective ++ rest)) = some (connective, ' ' :: rest) := by
  cases connective <;> rfl

/-- Written conditions are read one after another, each with what joins it to the one before. -/
theorem readFurther_furtherText {further : List (Connective × Condition)} {fuel : Nat}
    (expressible : ∀ next ∈ further, next.2.Expressible) (enough : further.length ≤ fuel) :
    readFurther fuel (furtherText further) =
      (further.map fun (connective, condition) => (connective, condition.written), []) := by
  induction further generalizing fuel with
  | nil => exact readFurther_space onlySpace_nil
  | cons next more ih =>
    obtain ⟨connective, condition⟩ := next
    cases fuel with
    | zero => simp at enough
    | succ fuel =>
      -- The text of the row is that of its first condition, and then that of the others.
      have parts : furtherText ((connective, condition) :: more) =
          connectiveText connective ++ (condition.text ++ furtherText more) := by
        simp [furtherText]
      have clause := readClause_text (expressible (connective, condition) (by simp))
        (endsClause_furtherText more)
      have enoughLeft : more.length ≤ fuel := by simpa using enough
      have rest := ih (fun other inside => expressible other (by simp [inside])) enoughLeft
      -- One connective and one clause are taken off, and the rest is read with less fuel.
      rw [readFurther, parts, readConnective_connectiveText]
      simp only [skipSpace_blank, skipSpace_of_leaves leaves_text, clause, rest, List.map_cons]

/-- The members of groups in a row, each with what joins it to the one before. -/
def linked {α : Type} : List (List α) → List (Connective × α)
  | [] => []
  | [] :: groups => linked groups
  | (first :: rest) :: groups =>
    (.disjunction, first) :: (rest.map (Connective.conjunction, ·) ++ linked groups)

/-- Cutting a row of linked clauses gives back the groups, of which none may be empty. -/
theorem grouped_linked (first : WrittenClause) (rest : List WrittenClause)
    {groups : List (List WrittenClause)} (inhabited : ∀ group ∈ groups, group ≠ []) :
    grouped first (rest.map (Connective.conjunction, ·) ++ linked groups) =
      (first :: rest) :: groups := by
  -- The rest of the first group is taken off first, then one group after another.
  induction groups generalizing first rest with
  | nil =>
    induction rest generalizing first with
    | nil => rfl
    | cons next more ih => simp [grouped, ih]
  | cons group others tail =>
    induction rest generalizing first with
    | nil =>
      cases group with
      | nil => exact absurd rfl (inhabited [] (by simp))
      | cons next more =>
        -- The first group is used up, so the next one opens behind a disjunction.
        have behind := tail next more fun group inside => inhabited group (by simp [inside])
        simp [linked, grouped, behind]
    | cons next more ih => simp [grouped, ih]

/-- Linking commutes with a view of the members. -/
theorem linked_map {α β : Type} (view : α → β) (groups : List (List α)) :
    linked (groups.map (List.map view)) =
      (linked groups).map fun (connective, member) => (connective, view member) := by
  induction groups with
  | nil => rfl
  | cons group others ih =>
    cases group with
    | nil => simpa [linked] using ih
    | cons first rest => simp [linked, ih, Function.comp_def]

/-- Linking adds no members. -/
theorem mem_linked {α : Type} {groups : List (List α)} {next : Connective × α}
    (inside : next ∈ linked groups) : next.2 ∈ groups.flatten := by
  induction groups with
  | nil => simp [linked] at inside
  | cons group others ih =>
    cases group with
    | nil => simpa using ih (by simpa [linked] using inside)
    | cons first rest =>
      -- A member is the first of its group, another one, or in a later group.
      simp only [linked, List.mem_cons, List.mem_append, List.mem_map] at inside
      rcases inside with rfl | ⟨member, inside, rfl⟩ | later
      · simp
      · simp [inside]
      · simpa using .inr (.inr (by simpa using ih later))

/-- Texts are joined by a separator in front of each but the first. -/
theorem joinTexts_cons (separator first : List Char) (rest : List (List Char)) :
    joinTexts separator (first :: rest) = first ++ rest.flatMap (separator ++ ·) := by
  induction rest generalizing first with
  | nil => simp [joinTexts]
  | cons next more ih =>
    rw [joinTexts, List.intercalate_cons_cons, ← joinTexts, ih]
    simp

/-- Conditions in a row are written one after another. -/
theorem furtherText_append (front back : List (Connective × Condition)) :
    furtherText (front ++ back) = furtherText front ++ furtherText back := by
  simp [furtherText]

/-- The text of a group is its first condition and the others joined to it. -/
theorem text_group (first : Condition) (rest : List Condition) :
    ConditionGroup.text (first :: rest) =
      first.text ++ furtherText (rest.map (Connective.conjunction, ·)) := by
  simp [ConditionGroup.text, joinTexts_cons, furtherText, List.flatMap_map, connectiveText]

/-- The text of groups is the first one, and the others joined to it. -/
theorem text_groups (group : ConditionGroup) {groups : List ConditionGroup}
    (inhabited : ∀ group ∈ groups, group ≠ []) :
    joinTexts [' ', 'o', 'r', ' '] ((group :: groups).map ConditionGroup.text) =
      group.text ++ furtherText (linked groups) := by
  rw [List.map_cons, joinTexts_cons]
  congr 1
  induction groups with
  | nil => rfl
  | cons next others ih =>
    cases next with
    | nil => exact absurd rfl (inhabited [] (by simp))
    | cons first rest =>
      -- The groups behind the next one are written as a row already.
      have behind := ih fun group inside => inhabited group (by simp [inside])
      rw [List.map_cons, List.flatMap_cons, behind, text_group, linked, ← List.cons_append,
        furtherText_append]
      simp [furtherText, connectiveText]

/-- There are at least as many characters as conditions, so the reader has fuel for all of them. -/
theorem length_le_furtherText (further : List (Connective × Condition)) :
    further.length ≤ (furtherText further).length := by
  induction further with
  | nil => simp
  | cons next more ih =>
    obtain ⟨connective, condition⟩ := next
    have parts := furtherText_append [(connective, condition)] more
    rw [List.singleton_append] at parts
    -- Both connectives are longer than one character.
    rw [parts]
    cases connective <;>
    · simp only [furtherText, connectiveText, List.flatMap_cons, List.flatMap_nil, List.length_cons,
        List.length_append] at ih ⊢
      omega

/-- The clauses of written groups are read as these groups. -/
theorem readGroups_text {groups : List ConditionGroup} (inhabited : ∀ group ∈ groups, group ≠ [])
    (expressible : ∀ condition ∈ groups.flatten, condition.Expressible) :
    readGroups (joinTexts [' ', 'o', 'r', ' '] (groups.map ConditionGroup.text)) =
      some (groups.map (List.map Condition.written)) := by
  cases groups with
  | nil => rfl
  | cons group others =>
    cases group with
    | nil => exact absurd rfl (inhabited [] (by simp))
    | cons first rest =>
      -- The first condition opens the text, and all others follow it in a row.
      have inhabitedOthers : ∀ group ∈ others, group ≠ [] :=
        fun group inside => inhabited group (by simp [inside])
      have parts := text_groups (first :: rest) inhabitedOthers
      rw [text_group, List.append_assoc, ← furtherText_append] at parts
      have clause := readClause_text (expressible first (by simp))
        (endsClause_furtherText (rest.map (Connective.conjunction, ·) ++ linked others))
      have furtherExpressible : ∀ next ∈ rest.map (Connective.conjunction, ·) ++ linked others,
          next.2.Expressible := by
        intro next inside
        rcases List.mem_append.mp inside with inGroup | later
        · obtain ⟨condition, found, rfl⟩ := List.mem_map.mp inGroup
          exact expressible condition (by simp [found])
        · exact expressible next.2 (by simpa using .inr (.inr (by simpa using mem_linked later)))
      have further := readFurther_furtherText furtherExpressible (length_le_furtherText _)
      -- Cutting the row of clauses where it was joined gives back the groups.
      have written : (rest.map (Connective.conjunction, ·) ++ linked others).map
            (fun (connective, condition) => (connective, condition.written)) =
          (rest.map Condition.written).map (Connective.conjunction, ·) ++
            linked (others.map (List.map Condition.written)) := by
        simp [linked_map, Function.comp_def]
      have inhabitedWritten : ∀ group ∈ others.map (List.map Condition.written), group ≠ [] := by
        intro group inside
        obtain ⟨given, found, rfl⟩ := List.mem_map.mp inside
        simpa using inhabitedOthers given found
      have cut := grouped_linked first.written (rest.map Condition.written) inhabitedWritten
      rw [parts, readGroups, skipSpace_of_leaves leaves_text, clause]
      simp only [further, written, cut]
      rfl

end Expression

namespace ConditionSet

/-- A set of expressible conditions reads back from its text, without its empty groups. -/
theorem parse_display (set : ConditionSet)
    (expressible : ∀ condition ∈ set.conditions, condition.Expressible) :
    parse set.display.toList = .ok set.withoutEmpty := by
  -- Groups that are left hold conditions, and only conditions of the set.
  have inhabited : ∀ group ∈ set.withoutEmpty.groups, group ≠ [] := by
    intro group inside
    simpa using (List.mem_filter.mp inside).2
  have kept : ∀ condition ∈ set.withoutEmpty.groups.flatten, condition.Expressible := by
    intro condition inside
    obtain ⟨group, inGroups, inGroup⟩ := List.mem_flatten.mp inside
    exact expressible condition
      (List.mem_flatten.mpr ⟨group, (List.mem_filter.mp inGroups).1, inGroup⟩)
  rw [display, String.toList_ofList, text, parse_eq_ok_iff]
  refine ⟨_, Expression.readGroups_text inhabited kept, ?_⟩
  -- Every clause denotes the condition that it was written for.
  refine List.forall₂_map_left_iff.mpr (List.forall₂_same.mpr fun group inGroups => ?_)
  refine List.forall₂_map_left_iff.mpr (List.forall₂_same.mpr fun condition inGroup => ?_)
  exact Expression.decode_written (kept condition (List.mem_flatten.mpr ⟨group, inGroups, inGroup⟩))

/-- A set whose keys, operators and operands look like what joins clauses, with an empty group. -/
def lookalikes : ConditionSet :=
  ⟨[[⟨"and", "or", .string "or"⟩, ⟨"Or", "notnull", .null⟩], [],
    [⟨"a \"b\"\n", "=~", .object [("", .array [.number .leastPositive, .null])]⟩,
      ⟨"", "and", .null⟩]]⟩

/-- The set of look-alikes reads back from its text. -/
theorem parse_display_lookalikes :
    parse lookalikes.display.toList =
      .ok ⟨[[⟨"and", "or", .string "or"⟩, ⟨"Or", "notnull", .null⟩],
        [⟨"a \"b\"\n", "=~", .object [("", .array [.number .leastPositive, .null])]⟩,
          ⟨"", "and", .null⟩]]⟩ := by
  refine parse_display lookalikes fun condition inside => ?_
  simp only [lookalikes, conditions, List.flatten_cons, List.flatten_nil, List.cons_append,
    List.nil_append, List.mem_cons, List.not_mem_nil, or_false] at inside
  rcases inside with rfl | rfl | rfl | rfl
  · exact ⟨by decide, by decide, trivial, trivial⟩
  · exact ⟨by decide, by decide, trivial, trivial⟩
  · refine ⟨by decide, by decide, ?_, ?_⟩
    · have alone : ([""] : List String).Nodup := List.nodup_cons.mpr ⟨List.not_mem_nil, List.nodup_nil⟩
      exact ⟨alone, ⟨trivial, trivial, trivial, trivial⟩, trivial⟩
    · exact ⟨trivial, ⟨trivial, Number.leastPositive_readsBack, trivial, trivial⟩, trivial⟩
  · exact ⟨by decide, by decide, trivial, trivial⟩

end ConditionSet

end RecordFilter
