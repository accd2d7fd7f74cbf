import RecordFilter.Proofs.Json.Parts

/-! The compact text of a document reads back as the document. -/

namespace RecordFilter

namespace StringPart

/-- The two digits of a control character denote its code. -/
theorem hexNumber_control :
    ∀ code < 32, hexNumber? 0 ['0', '0', Json.hexDigit (code / 16), Json.hexDigit (code % 16)] =
      some code := by
  decide

/-- A unit that is no half of a pair denotes its character, whatever comes behind it. -/
theorem decode_unit {code : Nat} (notHigh : isHighSurrogate code = false)
    (notLow : isLowSurrogate code = false) (parts : List StringPart) :
    decode (.unit code :: parts) = (decode parts).map (Char.ofNat code :: ·) := by
  cases parts with
  | nil => simp [decode, notHigh, notLow]
  | cons part rest => cases part <;> simp [decode, notHigh, notLow]

/-- An escaped character is a part of a literal that denotes the character. -/
theorem exists_escape (character : Char) :
    ∃ part : StringPart, part.Spelled (Json.escape character) ∧
      ∀ parts, decode (part :: parts) = (decode parts).map (character :: ·) := by
  unfold Json.escape
  -- Seven characters have short escapes, and the last arm takes all others.
  split
  case h_8 unquoted unescaped _ _ _ _ _ =>
    split
    case isTrue control =>
      refine ⟨.unit character.toNat, .code (hexNumber_control _ control), fun parts => ?_⟩
      -- Control characters lie far below the halves of pairs.
      have notHigh : isHighSurrogate character.toNat = false := by
        simp only [isHighSurrogate, Bool.and_eq_false_iff, decide_eq_false_iff_not]
        omega
      have notLow : isLowSurrogate character.toNat = false := by
        simp only [isLowSurrogate, Bool.and_eq_false_iff, decide_eq_false_iff_not]
        omega
      rw [decode_unit notHigh notLow, Char.ofNat_toNat]
    case isFalse visible =>
      exact ⟨.plain character, .itself unquoted unescaped (Nat.not_lt.mp visible), fun _ => rfl⟩
  all_goals exact ⟨.plain _, .short rfl, fun _ => rfl⟩

/-- The escaped characters of a string are the parts of a literal that denotes the string. -/
theorem exists_escapes (characters : List Char) :
    ∃ parts, AllSpelled parts (characters.flatMap Json.escape) ∧ decode parts = some characters := by
  induction characters with
  | nil => exact ⟨[], .nil, rfl⟩
  | cons character rest ih =>
    -- Each character becomes one part, and no two of them are ever joined to a pair.
    obtain ⟨part, spelled, denotes⟩ := exists_escape character
    obtain ⟨parts, allSpelled, allDenote⟩ := ih
    exact ⟨part :: parts, .cons spelled allSpelled, by rw [denotes, allDenote]; rfl⟩

/-- A quoted string is a literal that denotes the string. -/
theorem exists_quote (text : String) :
    ∃ parts inner, AllSpelled parts inner ∧ text? parts = some text ∧
      Json.quote text = '"' :: (inner ++ ['"']) := by
  obtain ⟨parts, spelled, denotes⟩ := exists_escapes text.toList
  exact ⟨parts, _, spelled, by simp [text?, denotes], rfl⟩

end StringPart

namespace Json

-- Every container takes one of the rooms that its contents are not deeper than.

mutual

/-- The text of a document spells a written one that denotes the document. -/
theorem exists_written {value : Json} {room : Nat} (unique : value.KeysUnique)
    (doubles : value.DoublesReadBack) (nesting : value.depth ≤ room) :
    ∃ written, Written.Spelled written value.write ∧ written.value? room = some value := by
  cases value with
  | null => exact ⟨.null, .isNull, rfl⟩
  | bool truth => cases truth <;> exact ⟨.bool _, by constructor, rfl⟩
  | number value =>
    -- Integers always read back, and doubles by assumption.
    have reads : value.ReadsBack := by
      cases value with
      | integer value inRange => exact Number.integer_readsBack value inRange
      | double => exact doubles
    obtain ⟨literal, spelled, denotes⟩ := Number.readsBack_iff.mp reads
    exact ⟨.number literal, .number spelled, by simp [Written.value?, denotes]⟩
  | string text =>
    obtain ⟨parts, inner, spelled, denotes, quoted⟩ := StringPart.exists_quote text
    refine ⟨.string parts, ?_, by simp [Written.value?, denotes]⟩
    rw [write, quoted]
    exact .string spelled
  | array items =>
    cases room with
    | zero => simp [depth] at nesting
    | succ room =>
      cases items with
      | nil => exact ⟨.array [], .noItems onlySpace_nil, rfl⟩
      | cons item rest =>
        obtain ⟨written, spelled, denote⟩ :=
          exists_writtenItems (by simp) unique.2 doubles.2 (Nat.le_of_succ_le_succ nesting)
        exact ⟨.array written, .array spelled, by simp [Written.value?, denote]⟩
  | object members =>
    cases room with
    | zero => simp [depth] at nesting
    | succ room =>
      cases members with
      | nil => exact ⟨.object [], .noMembers onlySpace_nil, rfl⟩
      | cons member rest =>
        obtain ⟨written, spelled, denote⟩ :=
          exists_writtenMembers (by simp) unique.2 doubles.2 (Nat.le_of_succ_le_succ nesting)
        exact ⟨.object written, .object spelled,
          by simp [Written.value?, denote, ofMembers_of_nodup unique.1]⟩

/-- The texts of items with commas between them spell written items that denote the items. -/
theorem exists_writtenItems {items : List Json} {room : Nat} (inhabited : items ≠ [])
    (unique : ItemsEverywhere KeysDiffer items) (doubles : ItemsEverywhere DoubleReadsBack items)
    (nesting : itemsDepth items ≤ room) :
    ∃ written, Written.ItemsSpelled written (writeItems items) ∧
      Written.items? room written = some items := by
  cases items with
  | nil => contradiction
  | cons item rest =>
    obtain ⟨first, spelled, denotes⟩ :=
      exists_written unique.1 doubles.1 (Nat.le_trans (Nat.le_max_left _ _) nesting)
    cases rest with
    | nil =>
      -- The printer leaves no space, neither in front of a text nor behind it.
      have last := Written.ItemsSpelled.last onlySpace_nil spelled onlySpace_nil
      exact ⟨[first], by simpa [writeItems] using last, by simp [Written.items?, denotes]⟩
    | cons next more =>
      obtain ⟨others, othersSpelled, othersDenote⟩ := exists_writtenItems (by simp) unique.2
        doubles.2 (Nat.le_trans (Nat.le_max_right _ _) nesting)
      exact ⟨first :: others, .cons onlySpace_nil spelled onlySpace_nil othersSpelled,
        by simp [Written.items?, denotes, othersDenote]⟩

/-- The texts of members with commas between them spell written members that denote the members. -/
theorem exists_writtenMembers {members : List (String × Json)} {room : Nat}
    (inhabited : members ≠ []) (unique : MembersEverywhere KeysDiffer members)
    (doubles : MembersEverywhere DoubleReadsBack members) (nesting : membersDepth members ≤ room) :
    ∃ written, Written.MembersSpelled written (writeMembers members) ∧
      Written.members? room written = some members := by
  cases members with
  | nil => contradiction
  | cons member rest =>
    obtain ⟨key, value⟩ := member
    obtain ⟨written, spelled, denotes⟩ :=
      exists_written unique.1 doubles.1 (Nat.le_trans (Nat.le_max_left _ _) nesting)
    -- A key is written like a string, and so reads back like one.
    obtain ⟨parts, inner, named, keyDenotes, quoted⟩ := StringPart.exists_quote key
    have first := Written.MemberSpelled.intro named onlySpace_nil onlySpace_nil spelled
    cases rest with
    | nil =>
      -- The printer leaves no space, neither in front of a text nor behind it.
      have last := Written.MembersSpelled.last onlySpace_nil first onlySpace_nil
      exact ⟨[(parts, written)], by simpa [writeMembers, quoted] using last,
        by simp [Written.members?, keyDenotes, denotes]⟩
    | cons next more =>
      obtain ⟨others, othersSpelled, othersDenote⟩ := exists_writtenMembers (by simp) unique.2
        doubles.2 (Nat.le_trans (Nat.le_max_right _ _) nesting)
      have all := Written.MembersSpelled.cons onlySpace_nil first onlySpace_nil othersSpelled
      exact ⟨(parts, written) :: others, by simpa [writeMembers, quoted] using all,
        by simp [Written.members?, keyDenotes, denotes, othersDenote]⟩

end

/-- A document that nests no deeper than the reader follows reads back from its text. -/
theorem read_write {value : Json} (unique : value.KeysUnique) (doubles : value.DoublesReadBack)
    (nesting : value.depth ≤ nestingLimit) : read value.write = some value := by
  obtain ⟨written, spelled, denotes⟩ := exists_written unique doubles nesting
  -- The whole text is the spelling, without space around it.
  have found : Written.read value.write = some written :=
    Written.read_eq_some_iff.mpr
      ⟨[], value.write, [], onlySpace_nil, onlySpace_nil, spelled, by simp⟩
  rw [read, found, Option.bind_some, denotes]

end Json

end RecordFilter
