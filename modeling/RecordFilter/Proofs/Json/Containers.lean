import Mathlib.Data.List.Forall2
import RecordFilter.Proofs.Json.RoundTrip

/-! Containers are read from the texts of what they contain, with space around those or without. -/

namespace RecordFilter

namespace Json

/-- A text that spells a document, whatever the document denotes. -/
def IsText (text : List Char) : Prop :=
  ∃ written, Written.read text = some written

/-- The text of an array with items of the given texts. -/
def arrayText (items : List (List Char)) : List Char :=
  '[' :: ([','].intercalate items ++ [']'])

/-- The text of a member with a value of the given text. -/
def memberText (member : String × List Char) : List Char :=
  quote member.1 ++ ':' :: member.2

/-- The text of an object with members of the given names and texts. -/
def objectText (members : List (String × List Char)) : List Char :=
  '\x7b' :: ([','].intercalate (members.map memberText) ++ ['\x7d'])

/-- The printer puts commas between the texts of items. -/
theorem writeItems_eq (items : List Json) :
    writeItems items = [','].intercalate (items.map write) := by
  induction items with
  | nil => rfl
  | cons item rest ih =>
    cases rest with
    | nil => simp [writeItems]
    -- A comma stands only in front of another item.
    | cons next more => simp [writeItems, ih, List.intercalate_cons_cons]

/-- The compact text of an array is put together from those of its items. -/
theorem write_array (items : List Json) : (array items).write = arrayText (items.map write) := by
  simp [write, arrayText, writeItems_eq]

/-- No item is deeper than the deepest. -/
theorem depth_le_itemsDepth {item : Json} {items : List Json} (inside : item ∈ items) :
    item.depth ≤ itemsDepth items := by
  induction items with
  | nil => contradiction
  | cons first rest ih =>
    -- The depth of a list is the greater one of the first item and the rest.
    rcases List.mem_cons.mp inside with rfl | later
    · exact Nat.le_max_left _ _
    · exact Nat.le_trans (ih later) (Nat.le_max_right _ _)

/-- Something holds everywhere in some items if it does in each of them. -/
theorem itemsEverywhere_iff {holds : Json → Prop} {items : List Json} :
    ItemsEverywhere holds items ↔ ∀ item ∈ items, item.Everywhere holds := by
  induction items with
  | nil => simp [ItemsEverywhere]
  | cons item rest ih => simp [ItemsEverywhere, ih]

end Json

section Lists

variable {α β : Type} {step : α → Option β} {items : List α}

/-- If something belongs to every element, a list of such things belongs to the list. -/
theorem exists_forall₂ {belongs : α → β → Prop} (each : ∀ item ∈ items, ∃ result, belongs item result) :
    ∃ results, List.Forall₂ belongs items results := by
  induction items with
  | nil => exact ⟨[], .nil⟩
  | cons item rest ih =>
    obtain ⟨first, suits⟩ := each item List.mem_cons_self
    obtain ⟨others, allSuit⟩ := ih fun item inside => each item (List.mem_cons_of_mem _ inside)
    exact ⟨first :: others, .cons suits allSuit⟩

/-- What holds of whatever belongs to an element holds of all that belong to the list. -/
theorem forall_of_forall₂ {belongs : α → β → Prop} {holds : β → Prop} {results : List β}
    (all : List.Forall₂ belongs items results)
    (each : ∀ item result, belongs item result → holds result) : ∀ result ∈ results, holds result := by
  induction all with
  | nil => simp
  | cons first others ih => exact List.forall_mem_cons.mpr ⟨each _ _ first, ih⟩

/-- A list is taken through a step that may fail exactly when every element is. -/
theorem mapM_eq_some_iff {results : List β} :
    items.mapM step = some results ↔
      List.Forall₂ (fun item result => step item = some result) items results := by
  induction items generalizing results with
  | nil => simp [eq_comm]
  | cons item rest ih =>
    simp only [List.mapM_cons, Option.bind_eq_bind, Option.bind_eq_some_iff, ih,
      List.forall₂_cons_left_iff]
    -- Both sides ask the step of the first element, and the rest of the others.
    grind

/-- One element at which the step fails is enough to lose the list. -/
theorem mapM_eq_none_of_mem {item : α} (inside : item ∈ items) (fails : step item = none) :
    items.mapM step = none := by
  induction items with
  | nil => contradiction
  | cons first rest ih =>
    rw [List.mapM_cons]
    rcases List.mem_cons.mp inside with rfl | later
    · rw [fails]
      rfl
    · -- Whether the first element is taken or not, the rest is lost.
      rw [ih later]
      cases step first <;> rfl

end Lists

namespace Written

open Json

/-- A text that spells a document, without space around it, is read as the document. -/
theorem Spelled.read_eq {written : Written} {text : List Char} (spelled : Spelled written text) :
    read text = some written :=
  read_eq_some_iff.mpr ⟨[], text, [], onlySpace_nil, onlySpace_nil, spelled, by simp⟩

/-- A member given by its name and text, and what its text is read as. -/
def ReadAs (member : String × List Char) (value : String × Written) : Prop :=
  member.1 = value.1 ∧ read member.2 = some value.2

/-- A written member, and the same with its name decoded. -/
def Named (part : List StringPart × Written) (value : String × Written) : Prop :=
  StringPart.text? part.1 = some value.1 ∧ part.2 = value.2

/-- Texts with commas between them spell the items that they are read as. -/
theorem itemsSpelled_of_read {texts : List (List Char)} {items : List Written}
    (inhabited : texts ≠ [])
    (reads : List.Forall₂ (fun text item => read text = some item) texts items) :
    ItemsSpelled items ([','].intercalate texts) := by
  induction reads with
  | nil => contradiction
  | cons first others ih =>
    -- Space around a text becomes space around the item.
    obtain ⟨before, front, after, blank, moreBlank, spelled, rfl⟩ := read_eq_some_iff.mp first
    cases others with
    | nil => simpa using ItemsSpelled.last blank spelled moreBlank
    | cons next more =>
      have all := ItemsSpelled.cons blank spelled moreBlank (ih (by simp))
      simpa [List.intercalate_cons_cons] using all

/-- An array is read from the texts of its items. -/
theorem read_arrayText {texts : List (List Char)} {items : List Written}
    (reads : List.Forall₂ (fun text item => read text = some item) texts items) :
    read (arrayText texts) = some (.array items) := by
  refine Spelled.read_eq ?_
  -- The grammar spells an array without items by a rule of its own.
  cases reads with
  | nil => exact .noItems onlySpace_nil
  | cons first others => exact .array (itemsSpelled_of_read (by simp) (.cons first others))

/-- An array of valid texts is read, and its items denote what their texts do one by one. -/
theorem exists_array {α β : Type} {text : β → List Char} {forms : List β}
    (valid : ∀ form ∈ forms, IsText (text form)) (denote : Written → Option α) :
    ∃ written, read (arrayText (forms.map text)) = some (.array written) ∧
      written.mapM denote = forms.mapM fun form => (read (text form)).bind denote := by
  obtain ⟨written, reads⟩ : ∃ written,
      List.Forall₂ (fun form item => read (text form) = some item) forms written :=
    exists_forall₂ valid
  refine ⟨written, read_arrayText (List.forall₂_map_left_iff.mpr reads), ?_⟩
  -- Item after item, what is read from a text is what stands in the array.
  induction reads with
  | nil => rfl
  | cons first others ih =>
    have rest := ih fun form inside => valid form (List.mem_cons_of_mem _ inside)
    rw [List.mapM_cons, List.mapM_cons, rest, first, Option.bind_some]

/-- The text of a member spells it, up to the space behind the value. -/
theorem exists_memberSpelled {member : String × List Char} {value : String × Written}
    (reads : ReadAs member value) :
    ∃ part front after, Named part value ∧ MemberSpelled part front ∧ OnlySpace after ∧
      memberText member = front ++ after := by
  obtain ⟨name, text⟩ := member
  obtain ⟨_, written⟩ := value
  obtain ⟨rfl, reads⟩ := reads
  obtain ⟨before, front, after, blank, moreBlank, spelled, rfl⟩ := read_eq_some_iff.mp reads
  obtain ⟨parts, inner, named, denotes, quoted⟩ := StringPart.exists_quote name
  -- Space in front of the value comes to stand between the colon and the value.
  exact ⟨(parts, written), _, after, ⟨denotes, rfl⟩, .intro named onlySpace_nil blank spelled,
    moreBlank, by simp [memberText, quoted]⟩

/-- The texts of members with commas between them spell the members. -/
theorem exists_membersSpelled {members : List (String × List Char)}
    {values : List (String × Written)} (inhabited : members ≠ [])
    (reads : List.Forall₂ ReadAs members values) :
    ∃ parts, List.Forall₂ Named parts values ∧
      MembersSpelled parts ([','].intercalate (members.map memberText)) := by
  induction reads with
  | nil => contradiction
  | cons first others ih =>
    obtain ⟨part, front, after, named, spelled, blank, whole⟩ := exists_memberSpelled first
    -- Space behind a value is space behind the member, in front of a comma or the brace.
    cases others with
    | nil =>
      have last := MembersSpelled.last onlySpace_nil spelled blank
      exact ⟨[part], .cons named .nil, by simpa [whole] using last⟩
    | cons next more =>
      obtain ⟨parts, allNamed, allSpelled⟩ := ih (by simp)
      have all := MembersSpelled.cons onlySpace_nil spelled blank allSpelled
      exact ⟨part :: parts, .cons named allNamed,
        by simpa [whole, List.intercalate_cons_cons] using all⟩

/-- An object is read from the names and texts of its members, repeated ones included. -/
theorem exists_read_objectText {members : List (String × List Char)}
    {values : List (String × Written)} (reads : List.Forall₂ ReadAs members values) :
    ∃ parts, List.Forall₂ Named parts values ∧
      read (objectText members) = some (.object parts) := by
  -- An object without members is spelled by a rule of its own.
  cases reads with
  | nil => exact ⟨[], .nil, (Spelled.noMembers onlySpace_nil).read_eq⟩
  | cons first others =>
    obtain ⟨parts, named, spelled⟩ := exists_membersSpelled (by simp) (.cons first others)
    exact ⟨parts, named, (Spelled.object spelled).read_eq⟩

end Written

end RecordFilter
