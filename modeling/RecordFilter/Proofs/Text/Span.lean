import Mathlib.Data.List.TakeDrop
import Mathlib.Data.List.TakeWhile
import RecordFilter.Json.Written

/-! Where a run of characters of one class ends, for digits and for the space between tokens. -/

namespace RecordFilter

/-- A text whose first character, if it has one, is outside a class. -/
def Leaves (belongs : Char → Bool) (text : List Char) : Prop :=
  ∀ character ∈ text.head?, belongs character = false

/-- A text that is nothing but space. -/
def OnlySpace (text : List Char) : Prop :=
  ∀ character ∈ text, isSpace character = true

/-- A class of characters to which no space belongs. -/
def Visible (belongs : Char → Bool) : Prop :=
  ∀ character, belongs character = true → isSpace character = false

section Span

variable {belongs : Char → Bool} {text front rest : List Char}

/-- The empty text has no first character that could belong to a class. -/
theorem leaves_nil : Leaves belongs [] := by
  simp [Leaves]

/-- Only the first character of a text matters. -/
@[simp] theorem leaves_cons {character : Char} :
    Leaves belongs (character :: rest) ↔ belongs character = false := by
  simp [Leaves]

/-- A text that leaves a class still does with another behind it that leaves the class as well. -/
theorem leaves_append {tail : List Char} (outside : Leaves belongs text)
    (tailOutside : Leaves belongs tail) : Leaves belongs (text ++ tail) := by
  cases text with
  | nil => exact tailOutside
  | cons character rest => exact leaves_cons.mpr (leaves_cons.mp outside)

/-- What leaves a class leaves every smaller one. -/
theorem leaves_of_imp {narrower : Char → Bool} (outside : Leaves belongs text)
    (smaller : ∀ character, narrower character = true → belongs character = true) :
    Leaves narrower text := by
  intro character first
  have stops := outside character first
  -- A first character of the smaller class would belong to the larger one.
  cases inside : narrower character with
  | false => rfl
  | true => exact absurd (smaller character inside) (by simp [stops])

/-- A run of a class ends where the text leaves the class. -/
theorem span_append (inside : ∀ character ∈ front, belongs character = true)
    (outside : Leaves belongs rest) : (front ++ rest).span belongs = (front, rest) := by
  -- A span is what the class takes, and what is left when that is dropped.
  rw [List.span_eq_takeWhile_dropWhile, List.takeWhile_append_of_pos inside,
    List.dropWhile_append_of_pos inside]
  cases rest with
  | nil => simp
  | cons character more => simp [leaves_cons.mp outside]

/-- A text that leaves the class at once begins with an empty run of it. -/
theorem span_of_leaves (outside : Leaves belongs text) : text.span belongs = ([], text) := by
  have none_ : ∀ character ∈ ([] : List Char), belongs character = true := by simp
  exact span_append none_ outside

/-- A run of a class and what follows it make up the text, which leaves the class between them. -/
theorem span_parts (found : text.span belongs = (front, rest)) :
    text = front ++ rest ∧ (∀ character ∈ front, belongs character = true) ∧
      Leaves belongs rest := by
  rw [List.span_eq_takeWhile_dropWhile] at found
  obtain ⟨rfl, rfl⟩ := Prod.mk.inj found
  refine ⟨List.takeWhile_append_dropWhile.symm, fun _ member => List.mem_takeWhile_imp member, ?_⟩
  -- The run stops at a character only because that one is outside.
  intro character first
  have stopped := List.head?_dropWhile_not belongs text
  rw [Option.mem_def.mp first] at stopped
  simpa using stopped

/-- A run of a class is the same with a text behind it that leaves the class. -/
theorem span_extend {tail : List Char} (found : text.span belongs = (front, rest))
    (tailOutside : Leaves belongs tail) :
    (text ++ tail).span belongs = (front, rest ++ tail) := by
  -- Taken apart at the end of the run, the text is put together again with more behind it.
  obtain ⟨rfl, inside, outside⟩ := span_parts found
  rw [List.append_assoc]
  exact span_append inside (leaves_append outside tailOutside)

/-- A run of a class that another character ends is the same whatever follows that one. -/
theorem span_extend_cons {tail : List Char} {next : Char}
    (found : text.span belongs = (front, next :: rest)) :
    (text ++ tail).span belongs = (front, next :: (rest ++ tail)) := by
  obtain ⟨rfl, inside, outside⟩ := span_parts found
  rw [List.append_assoc]
  exact span_append inside (leaves_cons.mpr (leaves_cons.mp outside))

end Span

section Space

variable {space text : List Char}

/-- The empty text holds nothing but space. -/
theorem onlySpace_nil : OnlySpace [] := by
  simp [OnlySpace]

/-- Space behind space is space. -/
theorem onlySpace_append (front : OnlySpace space) (back : OnlySpace text) :
    OnlySpace (space ++ text) := by
  intro character member
  exact (List.mem_append.mp member).elim (front character) (back character)

/-- Space in front of a text is skipped together with that of the text. -/
theorem skipSpace_append (blank : OnlySpace space) : skipSpace (space ++ text) = skipSpace text :=
  List.dropWhile_append_of_pos blank

/-- A blank in front is skipped with the space behind it. -/
@[simp] theorem skipSpace_blank : skipSpace (' ' :: text) = skipSpace text := by
  have blank : OnlySpace [' '] := by simp [OnlySpace, isSpace]
  exact skipSpace_append blank

/-- Space is skipped up to a visible character. -/
theorem skipSpace_visible {first : Char} (blank : OnlySpace space)
    (visible : isSpace first = false) : skipSpace (space ++ first :: text) = first :: text := by
  -- The space is gone, and the visible character stops the skipping.
  rw [skipSpace_append blank]
  simp [skipSpace, visible]

/-- Only four characters have to be tried to see that a class is visible. -/
theorem visible_of_excluded {belongs : Char → Bool}
    (excluded : belongs ' ' = false ∧ belongs '\t' = false ∧ belongs '\r' = false ∧
      belongs '\n' = false) : Visible belongs := by
  intro character inside
  cases blank : isSpace character with
  | false => rfl
  | true =>
    -- A space is one of the four characters that were tried.
    obtain ⟨noBlank, noTab, noReturn, noLine⟩ := excluded
    simp only [isSpace, Bool.or_eq_true, beq_iff_eq] at blank
    rcases blank with ((rfl | rfl) | rfl) | rfl
    · exact absurd (noBlank.symm.trans inside) Bool.false_ne_true
    · exact absurd (noTab.symm.trans inside) Bool.false_ne_true
    · exact absurd (noReturn.symm.trans inside) Bool.false_ne_true
    · exact absurd (noLine.symm.trans inside) Bool.false_ne_true

/-- A text that starts with space leaves every visible class, whatever follows. -/
theorem leaves_someSpace {belongs : Char → Bool} (visible : Visible belongs)
    (blank : OnlySpace space) (some_ : space ≠ []) : Leaves belongs (space ++ text) := by
  cases space with
  | nil => contradiction
  | cons character more =>
    -- The first character is space, which the class has none of.
    have isBlank := blank character (by simp)
    have differs : belongs character ≠ true := by
      intro inside
      simp [visible character inside] at isBlank
    exact leaves_cons.mpr (by simpa using differs)

/-- Space in front of a text leaves a visible class, if the text itself does. -/
theorem leaves_space {belongs : Char → Bool} (visible : Visible belongs)
    (blank : OnlySpace space) (outside : Leaves belongs text) : Leaves belongs (space ++ text) := by
  by_cases some_ : space = []
  · rw [some_]
    exact outside
  · exact leaves_someSpace visible blank some_

/-- Nothing is skipped of a text that starts with a visible character. -/
theorem skipSpace_of_leaves (visible : Leaves isSpace text) : skipSpace text = text := by
  cases text with
  | nil => rfl
  | cons character rest => simp [skipSpace, leaves_cons.mp visible]

/-- What is skipped is space. -/
theorem exists_skipSpace (text : List Char) :
    ∃ space, OnlySpace space ∧ text = space ++ skipSpace text :=
  ⟨text.takeWhile isSpace, fun _ member => List.mem_takeWhile_imp member,
    List.takeWhile_append_dropWhile.symm⟩

/-- A text is skipped as a whole exactly when it is nothing but space. -/
theorem skipSpace_eq_nil_iff : skipSpace text = [] ↔ OnlySpace text := by
  constructor
  · intro skipped
    -- What was skipped is then the whole text.
    obtain ⟨space, blank, parts⟩ := exists_skipSpace text
    rw [skipped, List.append_nil] at parts
    exact parts ▸ blank
  · intro blank
    rw [← List.append_nil text]
    exact skipSpace_append blank

/-- Space is skipped up to the same visible character, whatever follows. -/
theorem skipSpace_extend {tail : List Char} (visible : skipSpace text ≠ []) :
    skipSpace (text ++ tail) = skipSpace text ++ tail := by
  rw [skipSpace] at visible ⊢
  -- Something is left of the text, so the skipping never comes to what follows it.
  rw [List.dropWhile_append, if_neg (by simpa using visible), skipSpace]

/-- Digits are read up to the first character that is none. -/
theorem spanDigits_append {digits rest : List Char}
    (inside : ∀ character ∈ digits, character.isDigit = true) (outside : Leaves Char.isDigit rest) :
    spanDigits (digits ++ rest) = (digits, rest) :=
  span_append inside outside

end Space

end RecordFilter
