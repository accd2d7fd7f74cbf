import RecordFilter.Proofs.Path.Joining
import RecordFilter.Proofs.Path.Positions

/-! Paths as dotted texts: which paths are read back from their texts, among
them all that were read from one. -/

namespace RecordFilter

variable {name : String} {position : Nat}

namespace Segment

/-- A part of a dotted text that spells a position is one. -/
theorem ofText_of_position (found : position? name = some position) : ofText name = index position := by
  rw [ofText, found, Option.elim_some]

/-- Any other part is a key. -/
theorem ofText_of_none (none_ : position? name = none) : ofText name = field name := by
  rw [ofText, none_, Option.elim_none]

/-- A key is read from a text only if that is the key, and spells no position. -/
theorem ofText_eq_field_iff {text : String} :
    ofText text = field name ↔ text = name ∧ position? name = none := by
  -- A text that spells a position is read as one, and never as a key.
  cases found : position? text with
  | none =>
    rw [ofText_of_none found, field.injEq]
    constructor
    · rintro rfl
      exact ⟨rfl, found⟩
    · exact And.left
  | some position =>
    rw [ofText_of_position found]
    refine iff_of_false (by simp) ?_
    rintro ⟨rfl, none_⟩
    exact absurd (found.symm.trans none_) (by simp)

/-- A position is read back from its text if it is in range. -/
theorem ofText_text_index (inRange : position < twoTo 64) :
    ofText (index position).text = index position :=
  ofText_of_position (position?_digits inRange)

/-- Positions are read only in the range of 64 bits. -/
theorem lt_of_ofText {text : String} (read : ofText text = index position) : position < twoTo 64 := by
  cases found : position? text with
  | none => rw [ofText_of_none found] at read; contradiction
  | some given =>
    rw [ofText_of_position found] at read
    obtain rfl := index.inj read
    exact (position?_eq_some_iff.mp found).lt

/-- The text of a position has no point, as no digit is one. -/
theorem noPoint_index (position : Nat) : '.' ∉ (index position).text.toList := by
  rw [text, String.toList_ofList]
  intro inside
  exact absurd (digits_isDigit position _ inside) (by decide)

/-- Only the empty key has an empty text. -/
theorem text_eq_empty_iff {segment : Segment} : segment.text = "" ↔ segment = field "" := by
  cases segment with
  | field name => simp [text]
  | index position =>
    -- At least one digit is written for every position.
    obtain ⟨first, more, parts, -⟩ := digits_leading position
    simp [text, parts]

end Segment

namespace NodePath

/-- Texts without points are the parts of the text that has points between them. -/
theorem splitOn_intercalate {texts : List String} (some_ : texts ≠ [])
    (noPoint : ∀ text ∈ texts, '.' ∉ text.toList) :
    (String.intercalate "." texts).toList.splitOn '.' = texts.map String.toList := by
  rw [String.toList_intercalate]
  -- Splitting undoes joining, as long as no part holds the separator.
  refine List.splitOn_intercalate '.' ?_ (by simpa using some_)
  intro part inside
  obtain ⟨text, member, rfl⟩ := List.mem_map.mp inside
  exact noPoint text member

/-- No part of a text between its points has a point in it. -/
theorem noPoint_of_mem_splitOn {text part : List Char} (inside : part ∈ text.splitOn '.') :
    '.' ∉ part := by
  -- The induction is on the text, whose first character is a point or joins the part behind it.
  induction text generalizing part with
  | nil => simp_all
  | cons character rest ih =>
    rw [List.splitOn_cons_eq_if_modifyHead] at inside
    split at inside
    · rcases List.mem_cons.mp inside with rfl | later
      · simp
      · exact ih later
    · rename_i noPoint
      -- A character that is no point joins the first part of the rest.
      obtain ⟨first, more, parts⟩ := List.exists_cons_of_ne_nil (List.splitOn_ne_nil '.' rest)
      rw [parts, List.modifyHead_cons] at inside
      rcases List.mem_cons.mp inside with rfl | later
      · have others : '.' ∉ first := ih (by simp [parts])
        have differs : '.' ≠ character := by
          rintro rfl
          simp at noPoint
        exact List.not_mem_cons_of_ne_of_not_mem differs others
      · exact ih (by simp [parts, later])

/-- A text is its parts with points between them, and it is read part
by part if it is none of the root. -/
theorem exists_parts {text : String} (notEmpty : text ≠ "") (notPoint : text ≠ ".") :
    ∃ parts : List String, ofText text = parts.map Segment.ofText ∧
      (∀ part ∈ parts, '.' ∉ part.toList) ∧ String.intercalate "." parts = text := by
  refine ⟨(text.toList.splitOn '.').map String.ofList, ?_, ?_, String.toList_inj.mp ?_⟩
  · rw [ofText_eq_map notEmpty notPoint, List.map_map]
    rfl
  · intro part inside
    obtain ⟨characters, member, rfl⟩ := List.mem_map.mp inside
    rw [String.toList_ofList]
    exact noPoint_of_mem_splitOn member
  · rw [String.toList_intercalate, List.map_map]
    simp [Function.comp_def, List.intercalate_splitOn]

/-- A path that its text shows as it is: no key holds a point or spells a position, and no empty
keys alone make a text of the root. -/
structure Legible (path : NodePath) : Prop where
  /-- No key holds a point. -/
  noPoint : ∀ name, .field name ∈ path → '.' ∉ name.toList
  /-- No key spells a position. -/
  noPosition : ∀ name, .field name ∈ path → ∀ position, ¬PositionSpelled name.toList position
  /-- The path is not a single empty key. -/
  notEmpty : path ≠ [.field ""]
  /-- The path is not two empty keys. -/
  notPoint : path ≠ [.field "", .field ""]

/-- Every segment of a path that was read comes from a part of the text without points. -/
theorem exists_part_of_mem {text : String} {segment : Segment} (inside : segment ∈ ofText text) :
    ∃ part : String, Segment.ofText part = segment ∧ '.' ∉ part.toList := by
  by_cases root : text = "" ∨ text = "."
  · obtain rfl | rfl := root <;> exact absurd inside (by simp [ofText])
  · obtain ⟨notEmpty, notPoint⟩ := not_or.mp root
    obtain ⟨parts, read, noPoint, -⟩ := exists_parts notEmpty notPoint
    rw [read] at inside
    obtain ⟨part, member, same⟩ := List.mem_map.mp inside
    exact ⟨part, same, noPoint part member⟩

/-- A path that was read from a text is legible. -/
theorem legible_ofText (text : String) : (ofText text).Legible := by
  -- A key comes from a part of the text, and the part was no position.
  have keys : ∀ name, .field name ∈ ofText text → '.' ∉ name.toList ∧ position? name = none := by
    intro name inside
    obtain ⟨part, read, noPoint⟩ := exists_part_of_mem inside
    obtain ⟨rfl, none_⟩ := Segment.ofText_eq_field_iff.mp read
    exact ⟨noPoint, none_⟩
  -- Empty keys come from empty parts, and one or two of those make a text of the root.
  have noEmpties : ofText text ≠ [.field ""] ∧ ofText text ≠ [.field "", .field ""] := by
    by_cases root : text = "" ∨ text = "."
    · obtain rfl | rfl := root <;> simp [ofText]
    · obtain ⟨notEmpty, notPoint⟩ := not_or.mp root
      obtain ⟨parts, read, -, rfl⟩ := exists_parts notEmpty notPoint
      rw [read]
      constructor
      · intro single
        obtain ⟨part, rfl, empty⟩ := List.map_eq_singleton_iff.mp single
        obtain ⟨rfl, -⟩ := Segment.ofText_eq_field_iff.mp empty
        exact notEmpty rfl
      · intro pair
        obtain ⟨part, more, rfl, empty, rest⟩ := List.map_eq_cons_iff.mp pair
        obtain ⟨other, rfl, emptyToo⟩ := List.map_eq_singleton_iff.mp rest
        obtain ⟨rfl, -⟩ := Segment.ofText_eq_field_iff.mp empty
        obtain ⟨rfl, -⟩ := Segment.ofText_eq_field_iff.mp emptyToo
        exact notPoint rfl
  exact ⟨fun name inside => (keys name inside).1,
    fun name inside => position?_eq_none_iff.mp (keys name inside).2, noEmpties.1, noEmpties.2⟩

/-- The positions of a path that was read are in the range of 64 bits. -/
theorem lt_of_mem_ofText {text : String} (inside : .index position ∈ ofText text) :
    position < twoTo 64 := by
  obtain ⟨part, read, -⟩ := exists_part_of_mem inside
  exact Segment.lt_of_ofText read

variable {path : NodePath}

/-- The text of a path without points in its keys has no other parts
than the texts of the segments. -/
theorem splitOn_text (some_ : path ≠ []) (noPoint : ∀ name, .field name ∈ path → '.' ∉ name.toList) :
    path.text.toList.splitOn '.' = path.map fun segment => segment.text.toList := by
  -- A path that is not the root is written as its segments with points between them.
  have joined : path.text = String.intercalate "." (path.map Segment.text) := by
    obtain ⟨first, rest, rfl⟩ := List.exists_cons_of_ne_nil some_
    rfl
  rw [joined, splitOn_intercalate (by simpa using some_), List.map_map]
  · rfl
  · intro text inside
    obtain ⟨segment, member, rfl⟩ := List.mem_map.mp inside
    cases segment with
    | field name => exact noPoint name member
    | index position => exact Segment.noPoint_index position

/-- The text of a path without points in its keys is read segment by
segment, if it is none of the root. -/
theorem ofText_text_eq_map (noPoint : ∀ name, .field name ∈ path → '.' ∉ name.toList)
    (notEmpty : path.text ≠ "") (notPoint : path.text ≠ ".") :
    ofText path.text = path.map fun segment => Segment.ofText segment.text := by
  -- The root is written as a lone point.
  have some_ : path ≠ [] := by
    rintro rfl
    exact notPoint rfl
  rw [ofText_eq_map notEmpty notPoint, splitOn_text some_ noPoint, List.map_map]
  simp [Function.comp_def]

/-- A legible path with positions in range is read back from its text. -/
theorem ofText_text (legible : path.Legible)
    (inRange : ∀ position, .index position ∈ path → position < twoTo 64) : ofText path.text = path := by
  by_cases some_ : path = []
  · rw [some_]
    rfl
  have parts := splitOn_text some_ legible.noPoint
  -- A text of the root would consist of one empty part or of two.
  have notEmpty : path.text ≠ "" := by
    intro empty
    rw [empty] at parts
    obtain ⟨segment, rfl, none_⟩ := List.map_eq_singleton_iff.mp parts.symm
    refine legible.notEmpty ?_
    rw [Segment.text_eq_empty_iff.mp (String.toList_eq_nil_iff.mp none_)]
  have notPoint : path.text ≠ "." := by
    intro point
    rw [point] at parts
    obtain ⟨segment, more, rfl, none_, rest⟩ := List.map_eq_cons_iff.mp parts.symm
    obtain ⟨other, rfl, noneToo⟩ := List.map_eq_singleton_iff.mp rest
    refine legible.notPoint ?_
    rw [Segment.text_eq_empty_iff.mp (String.toList_eq_nil_iff.mp none_),
      Segment.text_eq_empty_iff.mp (String.toList_eq_nil_iff.mp noneToo)]
  rw [ofText_text_eq_map legible.noPoint notEmpty notPoint]
  -- Segment by segment, a key is no position, and a position is read back.
  calc path.map (fun segment => Segment.ofText segment.text)
      = path.map id := List.map_congr_left fun segment inside => by
        cases segment with
        | field name =>
          exact Segment.ofText_of_none (position?_eq_none_iff.mpr (legible.noPosition name inside))
        | index position => exact Segment.ofText_text_index (inRange position inside)
    _ = path := List.map_id path

/--
What was read from a text is read back from its own text. Of all paths with positions of 64 bits
exactly the legible ones are: those of which no key holds a point or spells a position, and which
are not one or two empty keys, since these have the two texts of the root.
-/
theorem ofText_text_eq_iff :
    (∀ text, ofText (ofText text).text = ofText text) ∧
    ∀ path : NodePath, (∀ position, .index position ∈ path → position < twoTo 64) →
      (ofText path.text = path ↔ path.Legible) := by
  refine ⟨fun text => ofText_text (legible_ofText text) fun position => lt_of_mem_ofText, ?_⟩
  intro path inRange
  constructor
  · -- A path that is read back was read, from its own text.
    intro same
    exact same ▸ legible_ofText path.text
  · intro legible
    exact ofText_text legible inRange

/-- The greatest position and the number after it, which is no position,
are read back behind an empty key. -/
theorem ofText_text_greatest :
    ofText (text [.field "", .index 18446744073709551615, .field "18446744073709551616"]) =
        [.field "", .index 18446744073709551615, .field "18446744073709551616"] ∧
      ofText (text [.field "+7"]) ≠ [.field "+7"] := by
  constructor
  · refine (ofText_text_eq_iff.2 _ ?_).mpr ⟨?_, ?_, by decide, by decide⟩
    · intro position inside
      obtain rfl : position = 18446744073709551615 := by simpa using inside
      decide
    · simp
    · intro name inside
      refine position?_eq_none_iff.mp ?_
      simp only [List.mem_cons, Segment.field.injEq, List.not_mem_nil, or_false, reduceCtorEq,
        false_or] at inside
      rcases inside with rfl | rfl
      · decide
      · decide +kernel
  · intro same
    have legible := (ofText_text_eq_iff.2 [.field "+7"] (by simp)).mp same
    have spelled : position? "+7" = some 7 := by decide
    exact legible.noPosition "+7" (by simp) 7 (position?_eq_some_iff.mp spelled)

end NodePath

end RecordFilter
