import RecordFilter.Document.Decoding
import RecordFilter.Proofs.Expression.Clause
import RecordFilter.Proofs.Json.RoundTrip

/-! Behind a bare key and an operator an expression accepts exactly the
documents, and as what they denote. -/

namespace RecordFilter

namespace Expression

variable {text rest : List Char} {first clause : WrittenClause}

/-- Nothing joins a further clause where there is only space. -/
theorem readFurther_space {fuel : Nat} (blank : OnlySpace text) :
    readFurther fuel text = ([], text) := by
  cases fuel with
  | zero => rfl
  | succ fuel =>
    -- Nothing is left behind the space that could join a clause.
    have none_ : readConnective [] = none := by decide
    simp [readFurther, skipSpace_eq_nil_iff.mpr blank, none_]

/-- Where no further clause is read, nothing is taken off the text. -/
theorem readFurther_nil {fuel : Nat} (read : readFurther fuel text = ([], rest)) : rest = text := by
  cases fuel with
  | zero => exact (Prod.mk.inj read).2.symm
  | succ fuel =>
    rw [readFurther] at read
    -- Without a connective, or without a clause behind it, the text is left as it was.
    split at read
    · exact (Prod.mk.inj read).2.symm
    · split at read
      · exact (Prod.mk.inj read).2.symm
      · exact absurd (Prod.mk.inj read).1 (by simp)

/-- Cutting clauses into groups loses none of them and keeps their order. -/
theorem flatten_grouped (first : WrittenClause) (others : List (Connective × WrittenClause)) :
    (grouped first others).flatten = first :: others.map Prod.snd := by
  induction others generalizing first with
  | nil => rfl
  | cons other rest ih =>
    obtain ⟨connective, next⟩ := other
    cases connective with
    | disjunction => simp [grouped, ih]
    | conjunction =>
      -- The first clause joins the group that the next one opens.
      have inner := ih next
      cases following : grouped next rest with
      | nil => simp [following] at inner
      | cons group more =>
        rw [following, List.flatten_cons] at inner
        simp [grouped, following, inner]

/-- A text makes a single clause exactly when only space follows the clause that is read first. -/
theorem readGroups_eq_single_iff {afterFirst : List Char} (visible : Leaves isSpace text)
    (read : readClause text = some (first, afterFirst)) :
    readGroups text = some [[clause]] ↔ first = clause ∧ OnlySpace afterFirst := by
  rw [readGroups, skipSpace_of_leaves visible, read]
  simp only
  constructor
  · intro single
    -- The first clause is followed by further ones, as far as connectives join them.
    cases further : readFurther afterFirst.length afterFirst with
    | mk others rest =>
      rw [further] at single
      simp only at single
      split at single
      · rename_i ended
        -- A single group of one clause leaves no room for further ones.
        have clauses := flatten_grouped first others
        rw [Option.some.inj single] at clauses
        obtain ⟨rfl, none_⟩ := List.cons.inj clauses
        obtain rfl := List.map_eq_nil_iff.mp none_.symm
        -- Without further clauses nothing more was taken, so only space can be left.
        obtain rfl := readFurther_nil further
        exact ⟨rfl, skipSpace_eq_nil_iff.mp (by simpa using ended)⟩
      · contradiction
  · rintro ⟨rfl, blank⟩
    simp [readFurther_space blank, skipSpace_eq_nil_iff.mpr blank, grouped]

end Expression

namespace Json

/-- Space around a document does not change what it denotes. -/
theorem read_space {before text after : List Char} {value : Json} (blank : OnlySpace before)
    (moreBlank : OnlySpace after) (found : read text = some value) :
    read (before ++ (text ++ after)) = some value := by
  obtain ⟨written, read, denotes⟩ := Option.bind_eq_some_iff.mp found
  obtain ⟨inner, front, behind, innerBlank, behindBlank, spelled, rfl⟩ :=
    Written.read_eq_some_iff.mp read
  -- The space that was there and the space that is added count as one.
  have wider : Written.read (before ++ ((inner ++ (front ++ behind)) ++ after)) = some written :=
    Written.read_eq_some_iff.mpr ⟨before ++ inner, front, behind ++ after,
      onlySpace_append blank innerBlank, onlySpace_append behindBlank moreBlank, spelled, by simp⟩
  rw [Json.read, wider, Option.bind_some, denotes]

/-- A document is a literal, with space around it, that denotes the same. -/
theorem exists_literal_of_read {text : List Char} {value : Json} (found : read text = some value) :
    ∃ literal after, Expression.readLiteral (skipSpace text) = some (literal, after) ∧
      OnlySpace after ∧ read literal = some value := by
  obtain ⟨written, whole, denotes⟩ := Option.bind_eq_some_iff.mp found
  obtain ⟨before, front, after, blank, moreBlank, spelled, rfl⟩ :=
    Written.read_eq_some_iff.mp whole
  have ends : Leaves continuesLiteral (after ++ []) :=
    leaves_space visible_continuesLiteral moreBlank leaves_nil
  rw [List.append_nil] at ends
  refine ⟨front, after, ?_, moreBlank, ?_⟩
  · rw [skipSpace_append blank, spelled.skipSpace_append, Expression.readLiteral_append spelled ends]
  · -- The literal alone is read as the same written document.
    have bare : Written.read front = some written :=
      Written.read_eq_some_iff.mpr
        ⟨[], front, [], onlySpace_nil, onlySpace_nil, spelled, by simp⟩
    rw [Json.read, bare, Option.bind_some, denotes]

/-- The bytes of a string are decoded as the characters of the string are read. -/
theorem decode_toUTF8 (text : String) : Format.json.decode text.toUTF8 = read text.toList := by
  -- The bytes of a string are always valid, and give the string back.
  have decoded : String.fromUTF8? text.toUTF8 = some text := by
    simp [String.fromUTF8?, String.fromUTF8, text.isValidUTF8]
  rw [Format.decode, decode, decoded, Option.bind_some]

end Json

namespace Expression

/-- A bare key starts a text with a visible character. -/
theorem leaves_key {key : List Char} (bare : needsQuotes key = false) :
    Leaves isSpace (key ++ rest) := by
  obtain ⟨some_, word⟩ := needsQuotes_eq_false bare
  -- A word has a first character, and space is none of a word.
  cases key with
  | nil => contradiction
  | cons character more =>
    have visible : Visible isWordCharacter := visible_of_excluded (by decide)
    exact leaves_cons.mpr (visible character (word character (by simp)))

/-- The clause that a bare key, an operator and a text make has an
operand where a literal is read. -/
theorem readClause_bare {key operator : List Char} (bare : needsQuotes key = false)
    (token : IsToken operator) (text : List Char) :
    readClause (key ++ ' ' :: (operator ++ ' ' :: text)) =
      some (clauseWith (.bare key) operator (' ' :: text) (readLiteral (skipSpace text))) := by
  have endsKey : Leaves isWordCharacter (' ' :: (operator ++ ' ' :: text)) :=
    leaves_cons.mpr rfl
  have named := readKey_bare bare endsKey
  rw [readClause_append named token (leaves_cons.mpr rfl), skipSpace_blank]

end Expression

namespace ConditionSet

/--
A bare key, an operator and a text make an expression of one condition exactly when the text is
a document, and the operand of the condition is what the document denotes.
-/
theorem parse_clause_eq_ok_iff (key operator text : String) (operand : Json)
    (bare : needsQuotes key.toList = false) (token : Expression.IsToken operator.toList)
    (visible : ∃ character ∈ text.toList, isSpace character = false) :
    parse (key ++ " " ++ operator ++ " " ++ text).toList = .ok ⟨[[⟨key, operator, operand⟩]]⟩ ↔
      Format.json.decode text.toUTF8 = some operand := by
  -- Over characters the expression is a key, a space, an operator, a space and the text.
  have written : (key ++ " " ++ operator ++ " " ++ text).toList =
      key.toList ++ ' ' :: (operator.toList ++ ' ' :: text.toList) := by simp
  have starts : Leaves isSpace (key.toList ++ ' ' :: (operator.toList ++ ' ' :: text.toList)) :=
    Expression.leaves_key bare
  have clauseRead := Expression.readClause_bare bare token text.toList
  simp only [written, parse_eq_ok_iff, WrittenClause.denote_single_iff, Json.decode_toUTF8]
  constructor
  · rintro ⟨_, read, clause, rfl, decoded⟩
    -- One condition means one clause, which ends the text, so its operand is all that was given.
    obtain ⟨rfl, blank⟩ := (Expression.readGroups_eq_single_iff starts clauseRead).mp read
    cases found : Expression.readLiteral (skipSpace text.toList) with
    | none =>
      -- Without a literal the whole text is left behind the operator, and it is not all space.
      rw [found] at blank
      obtain ⟨character, member, isVisible⟩ := visible
      exact absurd (blank character (List.mem_cons_of_mem _ member)) (by simp [isVisible])
    | some literal =>
      obtain ⟨literal, after⟩ := literal
      rw [found] at decoded blank
      obtain ⟨_, _, operandDecoded⟩ := WrittenClause.decode_eq_ok_iff.mp decoded
      -- Space in front, the literal, and space behind it are the text that was given.
      obtain ⟨space, spaceBlank, parts⟩ := exists_skipSpace text.toList
      rw [parts, Expression.readLiteral_parts found]
      exact Json.read_space spaceBlank blank
        (WrittenClause.decodeOperand_eq_ok_iff.mp operandDecoded)
  · intro read
    -- A document is a literal behind space, and with it the clause ends in space.
    obtain ⟨literal, after, found, blank, denotes⟩ := Json.exists_literal_of_read read
    rw [found] at clauseRead
    refine ⟨_, (Expression.readGroups_eq_single_iff starts clauseRead).mpr ⟨rfl, blank⟩, _, rfl, ?_⟩
    exact WrittenClause.decode_eq_ok_iff.mpr ⟨by simp [WrittenKey.decode], by simp,
      WrittenClause.decodeOperand_eq_ok_iff.mpr denotes⟩

/-- An operand in which containers nest. -/
def nestedOperand : Json :=
  .array [.object [("or", .number (.integer (-1) (by decide)))], .null]

/-- The operand may nest and have space around it, behind a key and an operator like connectives. -/
theorem parse_clause_nested :
    parse ("and-" ++ " " ++ "or" ++ " " ++ "\t[\x7b\"or\":-1\x7d,null]\n").toList =
      .ok ⟨[[⟨"and-", "or", nestedOperand⟩]]⟩ := by
  refine (parse_clause_eq_ok_iff "and-" "or" _ _ (by decide) (by decide) ⟨'[', by decide, rfl⟩).mpr ?_
  have parts : "\t[\x7b\"or\":-1\x7d,null]\n".toList = ['\t'] ++ (nestedOperand.write ++ ['\n']) := by
    decide +kernel
  have alone : (["or"] : List String).Nodup := List.nodup_cons.mpr ⟨List.not_mem_nil, List.nodup_nil⟩
  have unique : nestedOperand.KeysUnique := ⟨trivial, ⟨alone, trivial, trivial⟩, trivial, trivial⟩
  have doubles : nestedOperand.DoublesReadBack :=
    ⟨trivial, ⟨trivial, trivial, trivial⟩, trivial, trivial⟩
  have tab : OnlySpace ['\t'] := by simp [OnlySpace, isSpace]
  have newline : OnlySpace ['\n'] := by simp [OnlySpace, isSpace]
  rw [Json.decode_toUTF8, parts]
  exact Json.read_space tab newline (Json.read_write unique doubles (by decide))

end ConditionSet

end RecordFilter
