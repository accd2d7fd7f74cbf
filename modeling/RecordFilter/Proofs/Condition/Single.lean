import RecordFilter.Proofs.Condition.Spellings
import RecordFilter.Proofs.Expression.RoundTrip

/-! A set of a single condition is read back with whatever its operand is read as. -/

namespace RecordFilter

namespace Condition

variable {condition : Condition} {document : Written}

/-- The object of a condition gives three texts only: those that the condition is printed with. -/
theorem gives_members_iff {key operator operand : List Char} :
    (ConditionForm.object condition.members).Gives key operator operand ↔
      key = Json.quote condition.key ∧ operator = Json.quote condition.operator ∧
        operand = condition.operand.write := by
  simp [ConditionForm.Gives, members, valuesOf_cons, eq_comm]

/-- The object of a condition is made of documents, if the operand is spelled as one. -/
theorem valid_members (spelled : document.Spelled condition.operand.write) :
    (ConditionForm.object condition.members).Valid := by
  -- Key and operator are quoted, and a quoted text is always a document.
  have quoted : ∀ text, Json.IsText (Json.quote text) := by
    intro text
    obtain ⟨parts, _, textSpelled, _, same⟩ := StringPart.exists_quote text
    exact ⟨_, same ▸ (Written.Spelled.string textSpelled).read_eq⟩
  have operand : Json.IsText condition.operand.write := ⟨document, spelled.read_eq⟩
  simp [ConditionForm.Valid, ConditionForm.values, members, quoted, operand]

/-- From the object of a condition its key and operator are read,
and the operand as it is spelled. -/
theorem condition?_members_iff (spelled : document.Spelled condition.operand.write)
    {other : Condition} :
    (ConditionForm.object condition.members).condition? = some other ↔
      condition.key = other.key ∧ condition.operator = other.operator ∧
        document.value? operandRoom = some other.operand := by
  obtain ⟨key, _, keySpelled, keyDenotes, keyQuoted⟩ := StringPart.exists_quote condition.key
  obtain ⟨operator, _, operatorSpelled, operatorDenotes, operatorQuoted⟩ :=
    StringPart.exists_quote condition.operator
  -- The key and the operator are written as quoted texts, and read back from these.
  have keyRead : Written.read (Json.quote condition.key) = some (.string key) :=
    keyQuoted ▸ (Written.Spelled.string keySpelled).read_eq
  have operatorRead : Written.read (Json.quote condition.operator) = some (.string operator) :=
    operatorQuoted ▸ (Written.Spelled.string operatorSpelled).read_eq
  have operandRead := spelled.read_eq
  rw [condition?_eq_some_iff (valid_members spelled)]
  simp only [gives_members_iff, WrittenAs]
  constructor
  · rintro ⟨_, _, _, ⟨rfl, rfl, rfl⟩, written, token, value, given, keyGiven, operatorGiven,
      operandGiven⟩
    -- A text is read as one document only, so the three that are given are those that are known.
    obtain rfl := Option.some.inj (keyRead.symm.trans keyGiven)
    obtain rfl := Option.some.inj (operatorRead.symm.trans operatorGiven)
    obtain rfl := Option.some.inj (operandRead.symm.trans operandGiven)
    exact ⟨Option.some.inj (keyDenotes.symm.trans given.key),
      Option.some.inj (operatorDenotes.symm.trans given.operator), given.operand⟩
  · rintro ⟨sameKey, sameOperator, denotes⟩
    exact ⟨_, _, _, ⟨rfl, rfl, rfl⟩, .string key, .string operator, document,
      ⟨sameKey ▸ keyDenotes, sameOperator ▸ operatorDenotes, denotes⟩, keyRead, operatorRead,
      operandRead⟩

/-- The clause that a condition is written as denotes its key and operator, and the operand as it is
spelled. -/
theorem decode_written_iff (shown : condition.omitsOperand = false)
    (spelled : document.Spelled condition.operand.write) {other : Condition} :
    condition.written.decode = .ok other ↔
      condition.key = other.key ∧ condition.operator = other.operator ∧
        document.value? Json.nestingLimit = some other.operand := by
  have operandRead : Json.read condition.operand.write = document.value? Json.nestingLimit := by
    rw [Json.read, spelled.read_eq, Option.bind_some]
  simp only [WrittenClause.decode_eq_ok_iff, written, shown, Bool.false_eq_true, if_false,
    Expression.decode_writtenKey, String.ofList_toList, WrittenClause.decodeOperand_eq_ok_iff,
    operandRead, Except.ok.injEq]

end Condition

namespace ConditionSet

/-- The set of a single condition. -/
def single (condition : Condition) : ConditionSet := ⟨[[condition]]⟩

variable {condition : Condition} {document : Written} {set : ConditionSet}

/-- The text of a single condition is the condition as a clause. -/
theorem toList_display_single (condition : Condition) :
    (single condition).display.toList = condition.text := by
  simp [single, display, text, withoutEmpty, ConditionGroup.text, joinTexts]

/-- From the text of a single condition its key and operator are read,
and the operand as it is spelled. -/
theorem parse_display_single_iff (token : Expression.IsToken condition.operator.toList)
    (shown : condition.omitsOperand = false) (spelled : document.Spelled condition.operand.write) :
    parse (single condition).display.toList = .ok set ↔
      ∃ operand, document.value? Json.nestingLimit = some operand ∧
        set = single { condition with operand } := by
  -- Behind the clause there is nothing, which ends it.
  have ends : Expression.EndsClause [] := .inl rfl
  have clause := Expression.readClause_spelled token spelled ends
  have visible : Leaves isSpace (condition.text ++ []) := Expression.leaves_text
  rw [List.append_nil] at clause visible
  -- The text is one clause with nothing behind it, and so one group.
  have groups : Expression.readGroups condition.text = some [[condition.written]] :=
    (Expression.readGroups_eq_single_iff visible clause).mpr ⟨rfl, onlySpace_nil⟩
  have decoded : ∀ {other : Condition}, condition.written.decode = .ok other ↔ _ :=
    Condition.decode_written_iff shown spelled
  rw [toList_display_single, parse_eq_ok_iff]
  simp only [groups, Option.some.injEq, exists_eq_left']
  constructor
  · -- One clause denotes one condition, and all but the operand is known of it.
    intro denote
    obtain ⟨_, _, groupDenotes, moreDenote, groups⟩ := List.forall₂_cons_left_iff.mp denote
    obtain ⟨other, _, clauseDenotes, othersDenote, rfl⟩ := List.forall₂_cons_left_iff.mp groupDenotes
    obtain rfl := List.forall₂_nil_left_iff.mp moreDenote
    obtain rfl := List.forall₂_nil_left_iff.mp othersDenote
    obtain ⟨key, operator, denotes⟩ := decoded.mp clauseDenotes
    refine ⟨other.operand, denotes, ?_⟩
    rw [single, key, operator, ← groups]
  · rintro ⟨operand, denotes, rfl⟩
    exact .cons (.cons (decoded.mpr ⟨rfl, rfl, denotes⟩) .nil) .nil

/-- From the document of a single condition its key and operator are read, and the operand as it is
spelled. -/
theorem deserialize_single_iff (spelled : document.Spelled condition.operand.write) :
    deserialize (single condition).toJson.write = some set ↔
      ∃ operand, document.value? Condition.operandRoom = some operand ∧
        set = single { condition with operand } := by
  have valid : ∀ form ∈ [ConditionForm.object condition.members], form.Valid :=
    List.forall_mem_singleton.mpr (Condition.valid_members spelled)
  have text : (single condition).toJson.write = formsText [[.object condition.members]] := write_toJson
  -- One group is read from the text, and one condition from that.
  have found : deserialize (single condition).toJson.write =
      (ConditionForm.object condition.members).condition?.map single := by
    rw [text, deserialize_eq_mapM (List.forall_mem_singleton.mpr valid)]
    cases read : (ConditionForm.object condition.members).condition? <;>
      simp [group?_eq_mapM valid, read, single]
  rw [found, Option.map_eq_some_iff]
  simp only [Condition.condition?_members_iff spelled]
  -- What is read differs from the set in the operand alone.
  constructor
  · rintro ⟨other, ⟨key, operator, denotes⟩, rfl⟩
    exact ⟨other.operand, denotes, by rw [key, operator]⟩
  · rintro ⟨operand, denotes, rfl⟩
    exact ⟨{ condition with operand }, ⟨rfl, rfl, denotes⟩, rfl⟩

end ConditionSet

end RecordFilter
