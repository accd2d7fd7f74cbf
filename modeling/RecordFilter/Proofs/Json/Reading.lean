import RecordFilter.Proofs.Json.NumberReading

/-! Reading a document takes exactly the texts of the grammar, with space around them. -/

namespace RecordFilter

namespace StringPart

variable {part : StringPart} {parts : List StringPart} {text rest : List Char}

/-- One spelled part is read in front of those behind it. -/
theorem Spelled.readParts_append (spelled : part.Spelled text) :
    Written.readParts (text ++ rest) =
      (Written.readParts rest).map fun (others, after) => (part :: others, after) := by
  cases spelled with
  | itself unquoted unescaped visible =>
    simp [Written.readParts, unescaped, Nat.not_lt.mpr visible]
  | @short name character known =>
    -- The letter of a code is no short escape, so the arms of the reader do not overlap here.
    have differs : name ≠ 'u' := by
      rintro rfl
      simp [Written.shortEscape?] at known
    simp [Written.readParts, differs, known]
  | code digits => simp [Written.readParts, digits]

/-- The parts of a literal are read up to its closing mark. -/
theorem AllSpelled.readParts_append (spelled : AllSpelled parts text) :
    Written.readParts (text ++ '"' :: rest) = some (parts, rest) := by
  induction spelled with
  | nil => simp [Written.readParts]
  | cons first _ ih => simp [first.readParts_append, ih]

/-- What is read as parts is the text that spells them, up to a closing mark. -/
theorem AllSpelled.of_read (read : Written.readParts text = some (parts, rest)) :
    ∃ front, AllSpelled parts front ∧ text = front ++ '"' :: rest := by
  -- The cases are the arms of the reader, of which every reading one takes off one part.
  induction text using Written.readParts.induct generalizing parts with
  | case1 => simp [Written.readParts] at read
  | case2 closed =>
    simp only [Written.readParts, Option.some.injEq, Prod.mk.injEq] at read
    obtain ⟨rfl, rfl⟩ := read
    exact ⟨[], .nil, rfl⟩
  | case3 first second third fourth behind ih =>
    simp only [Written.readParts] at read
    -- The four characters behind the letter must be hexadecimal digits.
    obtain ⟨value, digits, read⟩ := Option.bind_eq_some_iff.mp read
    obtain ⟨⟨others, after⟩, othersRead, same⟩ := Option.map_eq_some_iff.mp read
    obtain ⟨rfl, rfl⟩ := Prod.mk.inj same
    obtain ⟨front, spelled, split⟩ := ih othersRead
    exact ⟨_, .cons (.code digits) spelled, by simp [split]⟩
  | case4 name behind noCode ih =>
    -- The letter behind the backslash is none that opens a code, so it must be a short escape.
    rw [Written.readParts.eq_4 _ _ noCode] at read
    obtain ⟨character, known, read⟩ := Option.bind_eq_some_iff.mp read
    obtain ⟨⟨others, after⟩, othersRead, same⟩ := Option.map_eq_some_iff.mp read
    obtain ⟨rfl, rfl⟩ := Prod.mk.inj same
    obtain ⟨front, spelled, split⟩ := ih othersRead
    exact ⟨_, .cons (.short known) spelled, by simp [split]⟩
  | case5 character behind unquoted noCode noShort refused =>
    -- A lone backslash and a control character are refused.
    rw [Written.readParts.eq_5 _ _ unquoted noCode noShort] at read
    simp [refused] at read
  | case6 character behind unquoted noCode noShort accepted ih =>
    rw [Written.readParts.eq_5 _ _ unquoted noCode noShort, if_neg accepted] at read
    obtain ⟨⟨others, after⟩, othersRead, same⟩ := Option.map_eq_some_iff.mp read
    obtain ⟨rfl, rfl⟩ := Prod.mk.inj same
    obtain ⟨front, spelled, split⟩ := ih othersRead
    -- A character that is accepted is neither a backslash nor a control character.
    simp only [Bool.or_eq_true, beq_iff_eq, decide_eq_true_eq, not_or, Nat.not_lt] at accepted
    exact ⟨_, .cons (.itself unquoted accepted.1 accepted.2) spelled, by simp [split]⟩

end StringPart

namespace Written

variable {fuel : Nat} {space text rest : List Char}

/-- Space in front of a document does not matter. -/
theorem readValue_space (blank : OnlySpace space) :
    readValue fuel (space ++ text) = readValue fuel text := by
  cases fuel with
  | zero => rfl
  | succ fuel => simp only [readValue, skipSpace_append blank]

/-- Nor does space in front of items. -/
theorem readItems_space (blank : OnlySpace space) :
    readItems fuel (space ++ text) = readItems fuel text := by
  cases fuel with
  | zero => rfl
  | succ fuel => simp only [readItems, readValue_space blank]

/-- Nor does space in front of a member. -/
theorem readMember_space (blank : OnlySpace space) :
    readMember fuel (space ++ text) = readMember fuel text := by
  cases fuel with
  | zero => rfl
  | succ fuel => simp only [readMember, skipSpace_append blank]

/-- Nor does space in front of several members. -/
theorem readMembers_space (blank : OnlySpace space) :
    readMembers fuel (space ++ text) = readMembers fuel text := by
  cases fuel with
  | zero => rfl
  | succ fuel => simp only [readMembers, readMember_space blank]

/-- Skipping space by hand does not matter either. -/
theorem readItems_skipSpace : readItems fuel (skipSpace text) = readItems fuel text := by
  obtain ⟨space, blank, parts⟩ := exists_skipSpace text
  -- Only the text on the right still has its space.
  conv => rhs; rw [parts, readItems_space blank]

/-- The same goes for members. -/
theorem readMembers_skipSpace : readMembers fuel (skipSpace text) = readMembers fuel text := by
  obtain ⟨space, blank, parts⟩ := exists_skipSpace text
  -- Only the text on the right still has its space.
  conv => rhs; rw [parts, readMembers_space blank]

/-- What opens a number is visible. -/
theorem isSpace_number {first : Char} (opens : first = '-' ∨ first.isDigit = true) :
    isSpace first = false := by
  have visible : Visible fun character => character == '-' || character.isDigit :=
    visible_of_excluded (by decide)
  exact visible first (by simpa using opens)

/-- A text that opens like a number is read as one. -/
theorem readValue_number {first : Char} {more : List Char}
    (opens : first = '-' ∨ first.isDigit = true) :
    readValue (fuel + 1) (first :: more) =
      (readNumber (first :: more)).map fun (literal, after) => (number literal, after) := by
  rw [readValue, skipSpace_of_leaves (leaves_cons.mpr (isSpace_number opens))]
  split
  case h_7 => rfl
  -- Every other arm asks for a first character that opens no number.
  all_goals
    rename_i same
    obtain ⟨rfl, _⟩ := List.cons.inj same
    exact absurd opens (by decide)

/-- Behind a bracket that is not closed at once there are items. -/
theorem readValue_array (inhabited : ∀ after, skipSpace text ≠ ']' :: after) :
    readValue (fuel + 1) ('[' :: text) =
      (readItems fuel text).map fun (items, after) => (array items, after) := by
  rw [readValue, skipSpace_of_leaves (leaves_cons.mpr rfl), ← readItems_skipSpace]
  -- The arm for an empty container is the one that is excluded.
  simp only

/-- Behind a brace that is not closed at once there are members. -/
theorem readValue_object (inhabited : ∀ after, skipSpace text ≠ '\x7d' :: after) :
    readValue (fuel + 1) ('\x7b' :: text) =
      (readMembers fuel text).map fun (members, after) => (object members, after) := by
  rw [readValue, skipSpace_of_leaves (leaves_cons.mpr rfl), ← readMembers_skipSpace]
  -- The arm for an empty container is the one that is excluded.
  simp only

/-- A document starts with a visible character that does not close an array. -/
theorem Spelled.opens {value : Written} (spelled : Spelled value text) :
    ∃ first more, text = first :: more ∧ isSpace first = false ∧ first ≠ ']' := by
  cases spelled with
  | number spelled =>
    -- What opens a number closes no array.
    obtain ⟨first, more, rfl, opens⟩ := spelled.opens
    refine ⟨first, more, rfl, isSpace_number opens, ?_⟩
    rintro rfl
    exact absurd opens (by decide)
  | _ => exact ⟨_, _, rfl, by decide, by decide⟩

/-- Items do not start with the bracket that closes them. -/
theorem ItemsSpelled.inhabited {items : List Written} (spelled : ItemsSpelled items text)
    (after : List Char) : skipSpace (text ++ rest) ≠ ']' :: after := by
  cases spelled with
  | last space spelled _ | cons space spelled _ _ =>
    -- Behind space the first item begins, whose first character is no bracket.
    obtain ⟨first, more, rfl, visible, differs⟩ := spelled.opens
    rw [List.append_assoc, skipSpace_append space]
    simp [skipSpace, visible, differs]

/-- Members start with a quotation mark. -/
theorem MembersSpelled.inhabited {members : List (List StringPart × Written)}
    (spelled : MembersSpelled members text) (after : List Char) :
    skipSpace (text ++ rest) ≠ '\x7d' :: after := by
  cases spelled with
  | last space spelled _ | cons space spelled _ _ =>
    cases spelled
    -- A member begins with the quotation mark of its key.
    rw [List.append_assoc, skipSpace_append space]
    simp [skipSpace, isSpace]

-- A call takes three units of fuel for a character, so that none runs out before the text does.

mutual

/-- A spelled document is read, and what is behind it is left. -/
theorem Spelled.readValue_append {value : Written} {text rest : List Char} {fuel : Nat}
    (spelled : Spelled value text) (ends : Leaves continuesNumber rest)
    (enough : 3 * text.length ≤ fuel) : readValue fuel (text ++ rest) = some (value, rest) := by
  cases fuel with
  | zero =>
    -- No document is spelled by the empty text.
    obtain ⟨_, _, rfl, _⟩ := spelled.opens
    simp at enough
  | succ fuel =>
    cases spelled with
    | isNull | isTrue | isFalse => rfl
    | number spelled =>
      -- A number has no first character of its own, so its arm is reached past all the others.
      have read := spelled.readNumber_append ends
      obtain ⟨first, more, rfl, opens⟩ := spelled.opens
      rw [List.cons_append] at read ⊢
      rw [readValue_number opens, read]
      rfl
    | string spelled => simp [readValue, skipSpace, isSpace, spelled.readParts_append]
    | noItems blank | noMembers blank =>
      simp [readValue, skipSpace_of_leaves, isSpace, skipSpace_visible, blank]
    | @array items text spelled =>
      simp only [List.length_cons, List.length_append] at enough
      have read : readItems fuel (text ++ ']' :: rest) = some (items, rest) :=
        spelled.readItems_append (by omega)
      simp [readValue_array spelled.inhabited, read]
    | @object members text spelled =>
      simp only [List.length_cons, List.length_append] at enough
      have read : readMembers fuel (text ++ '\x7d' :: rest) = some (members, rest) :=
        spelled.readMembers_append (by omega)
      simp [readValue_object spelled.inhabited, read]

/-- Spelled items are read up to the bracket behind them. -/
theorem ItemsSpelled.readItems_append {items : List Written} {text rest : List Char} {fuel : Nat}
    (spelled : ItemsSpelled items text) (enough : 3 * text.length + 1 ≤ fuel) :
    readItems fuel (text ++ ']' :: rest) = some (items, rest) := by
  cases fuel with
  | zero => omega
  | succ fuel =>
    cases spelled with
    | @last item before text after space spelled moreSpace =>
      simp only [List.length_append] at enough
      have ends : Leaves continuesNumber (after ++ ']' :: rest) :=
        leaves_space visible_continuesNumber moreSpace (leaves_cons.mpr rfl)
      have read := spelled.readValue_append ends (show 3 * text.length ≤ fuel by omega)
      simp [readItems, readValue_space space, read, skipSpace_visible, moreSpace, isSpace]
    | @cons item items before text after others space spelled moreSpace more =>
      simp only [List.length_cons, List.length_append] at enough
      have ends : Leaves continuesNumber (after ++ ',' :: (others ++ ']' :: rest)) :=
        leaves_space visible_continuesNumber moreSpace (leaves_cons.mpr rfl)
      have read := spelled.readValue_append ends (show 3 * text.length ≤ fuel by omega)
      -- A comma follows, so the other items are read with one unit of fuel less.
      have moreRead : readItems fuel (others ++ ']' :: rest) = some (items, rest) :=
        more.readItems_append (by omega)
      simp [readItems, readValue_space space, read, skipSpace_visible, moreSpace, isSpace, moreRead]

/-- Spelled members are read up to the brace behind them. -/
theorem MembersSpelled.readMembers_append {members : List (List StringPart × Written)}
    {text rest : List Char} {fuel : Nat} (spelled : MembersSpelled members text)
    (enough : 3 * text.length + 1 ≤ fuel) :
    readMembers fuel (text ++ '\x7d' :: rest) = some (members, rest) := by
  cases fuel with
  | zero => omega
  | succ fuel =>
    cases spelled with
    | @last member before text after space spelled moreSpace =>
      simp only [List.length_append] at enough
      have ends : Leaves continuesNumber (after ++ '\x7d' :: rest) :=
        leaves_space visible_continuesNumber moreSpace (leaves_cons.mpr rfl)
      have read := spelled.readMember_append ends (show 3 * text.length ≤ fuel by omega)
      simp [readMembers, readMember_space space, read, skipSpace_visible, moreSpace, isSpace]
    | @cons member members before text after others space spelled moreSpace more =>
      simp only [List.length_cons, List.length_append] at enough
      have ends : Leaves continuesNumber (after ++ ',' :: (others ++ '\x7d' :: rest)) :=
        leaves_space visible_continuesNumber moreSpace (leaves_cons.mpr rfl)
      have read := spelled.readMember_append ends (show 3 * text.length ≤ fuel by omega)
      -- A comma follows, so the other members are read with one unit of fuel less.
      have moreRead : readMembers fuel (others ++ '\x7d' :: rest) = some (members, rest) :=
        more.readMembers_append (by omega)
      simp [readMembers, readMember_space space, read, skipSpace_visible, moreSpace, isSpace,
        moreRead]

/-- A spelled member is read, and what is behind it is left. -/
theorem MemberSpelled.readMember_append {member : List StringPart × Written}
    {text rest : List Char} {fuel : Nat} (spelled : MemberSpelled member text)
    (ends : Leaves continuesNumber rest) (enough : 3 * text.length ≤ fuel) :
    readMember fuel (text ++ rest) = some (member, rest) := by
  cases spelled with
  | @intro key value keyText between before text named space moreSpace spelled =>
    simp only [List.length_cons, List.length_append] at enough
    cases fuel with
    | zero => omega
    | succ fuel =>
      -- The quotation marks and the colon pay for the step from the member to its value.
      have read := spelled.readValue_append ends (show 3 * text.length ≤ fuel by omega)
      simp [readMember, skipSpace_of_leaves, isSpace, named.readParts_append, skipSpace_visible,
        space, readValue_space moreSpace, read]

end

mutual

/-- What is read as a document is the text that spells it, behind space. -/
theorem Spelled.of_read (fuel : Nat) {value : Written} {text rest : List Char}
    (read : readValue fuel text = some (value, rest)) :
    ∃ space front, OnlySpace space ∧ Spelled value front ∧ text = space ++ (front ++ rest) := by
  cases fuel with
  | zero => simp [readValue] at read
  | succ fuel =>
    obtain ⟨space, blank, parts⟩ := exists_skipSpace text
    refine ⟨space, ?_⟩
    rw [readValue] at read
    -- One case for each arm of the reader: three words, a string, two containers, a number.
    split at read
    case h_1 visible | h_2 visible | h_3 visible =>
      rw [visible] at parts
      obtain ⟨rfl, rfl⟩ := Prod.mk.inj (Option.some.inj read)
      exact ⟨_, blank, by constructor, parts⟩
    case h_4 visible =>
      rw [visible] at parts
      obtain ⟨⟨found, after⟩, partsRead, same⟩ := Option.map_eq_some_iff.mp read
      obtain ⟨rfl, rfl⟩ := Prod.mk.inj same
      -- The marks around the parts are those that the arm and the closing one take.
      obtain ⟨front, spelled, split⟩ := StringPart.AllSpelled.of_read partsRead
      exact ⟨_, blank, .string spelled, by simp [parts, split]⟩
    case h_5 behind visible =>
      rw [visible] at parts
      obtain ⟨inner, innerBlank, innerParts⟩ := exists_skipSpace behind
      -- A bracket that is closed at once leaves only the space inside it.
      split at read
      case h_1 closed =>
        rw [closed] at innerParts
        obtain ⟨rfl, rfl⟩ := Prod.mk.inj (Option.some.inj read)
        exact ⟨_, blank, .noItems innerBlank, by simp [parts, innerParts]⟩
      case h_2 =>
        rw [readItems_skipSpace] at read
        obtain ⟨⟨found, after⟩, itemsRead, same⟩ := Option.map_eq_some_iff.mp read
        obtain ⟨rfl, rfl⟩ := Prod.mk.inj same
        obtain ⟨front, spelled, split⟩ := ItemsSpelled.of_read fuel itemsRead
        exact ⟨_, blank, .array spelled, by simp [parts, split]⟩
    case h_6 behind visible =>
      rw [visible] at parts
      obtain ⟨inner, innerBlank, innerParts⟩ := exists_skipSpace behind
      -- A brace that is closed at once leaves only the space inside it.
      split at read
      case h_1 closed =>
        rw [closed] at innerParts
        obtain ⟨rfl, rfl⟩ := Prod.mk.inj (Option.some.inj read)
        exact ⟨_, blank, .noMembers innerBlank, by simp [parts, innerParts]⟩
      case h_2 =>
        rw [readMembers_skipSpace] at read
        obtain ⟨⟨found, after⟩, membersRead, same⟩ := Option.map_eq_some_iff.mp read
        obtain ⟨rfl, rfl⟩ := Prod.mk.inj same
        obtain ⟨front, spelled, split⟩ := MembersSpelled.of_read fuel membersRead
        exact ⟨_, blank, .object spelled, by simp [parts, split]⟩
    case h_7 =>
      obtain ⟨⟨literal, after⟩, numberRead, same⟩ := Option.map_eq_some_iff.mp read
      obtain ⟨rfl, rfl⟩ := Prod.mk.inj same
      obtain ⟨front, spelled, split⟩ := NumberLiteral.Spelled.of_read numberRead
      exact ⟨_, blank, .number spelled, by rw [parts, split]⟩

/-- What is read as items is the text that spells them, up to a bracket. -/
theorem ItemsSpelled.of_read (fuel : Nat) {items : List Written} {text rest : List Char}
    (read : readItems fuel text = some (items, rest)) :
    ∃ front, ItemsSpelled items front ∧ text = front ++ ']' :: rest := by
  cases fuel with
  | zero => simp [readItems] at read
  | succ fuel =>
    rw [readItems] at read
    obtain ⟨⟨item, afterItem⟩, itemRead, read⟩ := Option.bind_eq_some_iff.mp read
    obtain ⟨before, front, blank, spelled, split⟩ := Spelled.of_read fuel itemRead
    obtain ⟨after, moreBlank, parts⟩ := exists_skipSpace afterItem
    simp only at read
    -- A comma goes on with the other items, and a bracket ends them.
    split at read
    case h_1 comma =>
      obtain ⟨⟨others, behind⟩, othersRead, same⟩ := Option.map_eq_some_iff.mp read
      obtain ⟨rfl, rfl⟩ := Prod.mk.inj same
      obtain ⟨more, moreSpelled, moreSplit⟩ := ItemsSpelled.of_read fuel othersRead
      exact ⟨_, .cons blank spelled moreBlank moreSpelled,
        by rw [split, parts, comma, moreSplit]; simp⟩
    case h_2 closed =>
      obtain ⟨rfl, rfl⟩ := Prod.mk.inj (Option.some.inj read)
      exact ⟨_, .last blank spelled moreBlank, by rw [split, parts, closed]; simp⟩
    case h_3 => contradiction

/-- What is read as members is the text that spells them, up to a brace. -/
theorem MembersSpelled.of_read (fuel : Nat) {members : List (List StringPart × Written)}
    {text rest : List Char} (read : readMembers fuel text = some (members, rest)) :
    ∃ front, MembersSpelled members front ∧ text = front ++ '\x7d' :: rest := by
  cases fuel with
  | zero => simp [readMembers] at read
  | succ fuel =>
    rw [readMembers] at read
    obtain ⟨⟨member, afterMember⟩, memberRead, read⟩ := Option.bind_eq_some_iff.mp read
    obtain ⟨before, front, blank, spelled, split⟩ := MemberSpelled.of_read fuel memberRead
    obtain ⟨after, moreBlank, parts⟩ := exists_skipSpace afterMember
    simp only at read
    -- A comma goes on with the other members, and a brace ends them.
    split at read
    case h_1 comma =>
      obtain ⟨⟨others, behind⟩, othersRead, same⟩ := Option.map_eq_some_iff.mp read
      obtain ⟨rfl, rfl⟩ := Prod.mk.inj same
      obtain ⟨more, moreSpelled, moreSplit⟩ := MembersSpelled.of_read fuel othersRead
      exact ⟨_, .cons blank spelled moreBlank moreSpelled,
        by rw [split, parts, comma, moreSplit]; simp⟩
    case h_2 closed =>
      obtain ⟨rfl, rfl⟩ := Prod.mk.inj (Option.some.inj read)
      exact ⟨_, .last blank spelled moreBlank, by rw [split, parts, closed]; simp⟩
    case h_3 => contradiction

/-- What is read as a member is the text that spells it, behind space. -/
theorem MemberSpelled.of_read (fuel : Nat) {member : List StringPart × Written}
    {text rest : List Char} (read : readMember fuel text = some (member, rest)) :
    ∃ space front, OnlySpace space ∧ MemberSpelled member front ∧
      text = space ++ (front ++ rest) := by
  cases fuel with
  | zero => simp [readMember] at read
  | succ fuel =>
    obtain ⟨space, blank, parts⟩ := exists_skipSpace text
    rw [readMember] at read
    split at read
    case h_1 visible =>
      obtain ⟨⟨key, afterKey⟩, keyRead, read⟩ := Option.bind_eq_some_iff.mp read
      obtain ⟨keyText, named, keySplit⟩ := StringPart.AllSpelled.of_read keyRead
      obtain ⟨between, betweenBlank, betweenParts⟩ := exists_skipSpace afterKey
      simp only at read
      -- Only a colon may stand between the key and the value.
      split at read
      case h_1 colon =>
        obtain ⟨⟨value, behind⟩, valueRead, same⟩ := Option.map_eq_some_iff.mp read
        obtain ⟨rfl, rfl⟩ := Prod.mk.inj same
        obtain ⟨before, front, moreBlank, spelled, split⟩ := Spelled.of_read fuel valueRead
        refine ⟨space, _, blank, .intro named betweenBlank moreBlank spelled, ?_⟩
        -- Space, key, space, colon and value make up the text in this order.
        rw [parts, visible, keySplit, betweenParts, colon, split]
        simp
      case h_2 => contradiction
    case h_2 => contradiction

end

/-- A text is read as a document exactly when it spells the document, with space around it. -/
theorem read_eq_some_iff {value : Written} {text : List Char} :
    read text = some value ↔
      ∃ before front after, OnlySpace before ∧ OnlySpace after ∧ Spelled value front ∧
        text = before ++ (front ++ after) := by
  constructor
  · intro found
    unfold read at found
    split at found
    case h_1 written rest valueRead =>
      -- A document is accepted only if nothing but space follows it.
      split at found
      case isTrue ended =>
        obtain ⟨before, front, blank, spelled, split⟩ := Spelled.of_read _ valueRead
        obtain rfl := Option.some.inj found
        exact ⟨before, front, rest, blank, skipSpace_eq_nil_iff.mp (by simpa using ended),
          spelled, split⟩
      case isFalse => contradiction
    case h_2 => contradiction
  · rintro ⟨before, front, after, blank, moreBlank, spelled, rfl⟩
    have ends : Leaves continuesNumber (after ++ []) :=
      leaves_space visible_continuesNumber moreBlank leaves_nil
    rw [List.append_nil] at ends
    have enough : 3 * front.length ≤ 3 * (before ++ (front ++ after)).length + 3 := by
      simp only [List.length_append]
      omega
    have valueRead := spelled.readValue_append ends enough
    rw [read, readValue_space blank, valueRead]
    simp [skipSpace_eq_nil_iff.mpr moreBlank]

end Written

end RecordFilter
