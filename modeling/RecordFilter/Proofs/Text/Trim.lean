import RecordFilter.Proofs.Text.Span
import RecordFilter.Text.Blank

/-! Trimming a text takes off what it has of a class at its ends, and nothing else. -/

namespace RecordFilter.Text

variable {drops : Char → Bool} {front text back : List Char}

/-- Characters of a class in front of a text are trimmed with those that the text begins with. -/
theorem trimStart_append (all : ∀ character ∈ front, drops character = true) :
    trimStart drops (front ++ text) = trimStart drops text :=
  List.dropWhile_append_of_pos all

/-- Characters of a class behind a text are trimmed with those that the text ends with. -/
theorem trimEnd_append (all : ∀ character ∈ back, drops character = true) :
    trimEnd drops (text ++ back) = trimEnd drops text := by
  -- The end is trimmed in the reverse, where the characters stand in front.
  have reversed : ∀ character ∈ back.reverse, drops character = true := fun character inside =>
    all character (List.mem_reverse.mp inside)
  rw [trimEnd, List.reverse_append, List.dropWhile_append_of_pos reversed, trimEnd]

/-- A text of one class is trimmed to nothing. -/
theorem trimEnd_of_all (all : ∀ character ∈ text, drops character = true) :
    trimEnd drops text = [] := by
  have trimmed : trimEnd drops ([] ++ text) = trimEnd drops [] := trimEnd_append all
  exact trimmed

/-- A text that does not begin with a class is not trimmed at its start. -/
theorem trimStart_of_leaves (leaves : Leaves drops text) : trimStart drops text = text := by
  cases text with
  | nil => rfl
  | cons first rest => exact List.dropWhile_cons_of_neg (by simp [leaves_cons.mp leaves])

/-- A text whose reverse does not begin with a class is not trimmed at its end. -/
theorem trimEnd_of_leaves (leaves : Leaves drops text.reverse) : trimEnd drops text = text := by
  rw [trimEnd, ← trimStart, trimStart_of_leaves leaves, List.reverse_reverse]

/-- What is trimmed at the start belongs to the class, and what is left does not begin with it. -/
theorem exists_trimStart (drops : Char → Bool) (text : List Char) :
    ∃ front, (∀ character ∈ front, drops character = true) ∧
      text = front ++ trimStart drops text ∧ Leaves drops (trimStart drops text) := by
  -- What is dropped and what is left are the two sides of a span.
  have spanned : text.span drops = (text.takeWhile drops, trimStart drops text) :=
    List.span_eq_takeWhile_dropWhile drops text
  obtain ⟨parts, all, leaves⟩ := span_parts spanned
  exact ⟨_, all, parts, leaves⟩

/-- What is trimmed at the end belongs to the class, and what is left does not end with it. -/
theorem exists_trimEnd (drops : Char → Bool) (text : List Char) :
    ∃ back, (∀ character ∈ back, drops character = true) ∧
      text = trimEnd drops text ++ back ∧ Leaves drops (trimEnd drops text).reverse := by
  -- The end of a text is the start of its reverse.
  obtain ⟨front, all, parts, leaves⟩ := exists_trimStart drops text.reverse
  refine ⟨front.reverse, fun character inside => all character (List.mem_reverse.mp inside), ?_, ?_⟩
  · have turned := congrArg List.reverse parts
    rwa [List.reverse_reverse, List.reverse_append] at turned
  · rwa [trimEnd, List.reverse_reverse]

/-- A text without characters of a class is not trimmed by it at its start. -/
theorem trimStart_of_none (none_ : ∀ character ∈ text, drops character = false) :
    trimStart drops text = text :=
  trimStart_of_leaves fun character first => none_ character (List.mem_of_mem_head? first)

/-- It is not trimmed at its end either, which is the start of the reverse. -/
theorem trimEnd_of_none (none_ : ∀ character ∈ text, drops character = false) :
    trimEnd drops text = text :=
  trimEnd_of_leaves fun character last =>
    none_ character (List.mem_reverse.mp (List.mem_of_mem_head? last))

/-- It is what is left when characters of the class around it are trimmed. -/
theorem trim_append (before : ∀ character ∈ front, drops character = true)
    (behind : ∀ character ∈ back, drops character = true)
    (none_ : ∀ character ∈ text, drops character = false) :
    trim drops (front ++ (text ++ back)) = text := by
  rw [trim, trimStart_append before]
  cases text with
  | nil =>
    -- Between nothing but characters of the class there is nothing to be left.
    have trimmed : trimStart drops (back ++ []) = [] := trimStart_append behind
    rw [List.nil_append, ← List.append_nil back, trimmed]
    rfl
  | cons first more =>
    have kept : Leaves drops (first :: more ++ back) := leaves_cons.mpr (none_ first (by simp))
    rw [trimStart_of_leaves kept, trimEnd_append behind, trimEnd_of_none none_]

/-- Of a text that has none of the class nothing is trimmed. -/
theorem trim_of_none (none_ : ∀ character ∈ text, drops character = false) :
    trim drops text = text := by
  have nothing : ∀ character ∈ ([] : List Char), drops character = true := by simp
  simpa using trim_append nothing nothing none_

/-- What is trimmed belongs to the class, on either side of what is left. -/
theorem exists_trim (drops : Char → Bool) (text : List Char) :
    ∃ front back, (∀ character ∈ front, drops character = true) ∧
      (∀ character ∈ back, drops character = true) ∧ text = front ++ (trim drops text ++ back) := by
  obtain ⟨front, before, parts, -⟩ := exists_trimStart drops text
  -- The end is trimmed of what trimming the start has left.
  obtain ⟨back, behind, rest, -⟩ := exists_trimEnd drops (trimStart drops text)
  exact ⟨front, back, before, behind, by rw [trim, ← rest, ← parts]⟩

end RecordFilter.Text
