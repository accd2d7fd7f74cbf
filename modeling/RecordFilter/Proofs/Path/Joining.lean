import RecordFilter.Path

/-! Paths one behind the other: as segments, as dotted texts, and as ways through a document. -/

namespace RecordFilter

namespace NodePath

/-- The parts of a text are what its points separate. -/
theorem parts_eq_splitOn (text : List Char) : parts text = text.splitOn '.' := by
  induction text with
  | nil => rfl
  | cons character rest ih =>
    -- A point closes an empty part in front of the others, and any other character joins the first.
    rw [List.splitOn_cons_eq_if_modifyHead, ← ih]
    by_cases point : character = '.'
    · rw [point]
      simp [parts]
    · have joined : parts (character :: rest) = (parts rest).modifyHead (character :: ·) := by
        have some_ : parts rest ≠ [] := ih ▸ List.splitOn_ne_nil '.' rest
        obtain ⟨part, more, found⟩ := List.exists_cons_of_ne_nil some_
        simp [parts, found]
      simp [joined, point]

/-- A dotted text is read part by part, unless it is one of the two texts of the root. -/
theorem ofText_eq_map {text : String} (some_ : text ≠ "") (noPoint : text ≠ ".") :
    ofText text =
      (text.toList.splitOn '.').map fun part => Segment.ofText (String.ofList part) := by
  simp [ofText, some_, noPoint, parts_eq_splitOn]

/-- Two dotted texts with a point between them are read as the path
of the one behind that of the other. -/
theorem ofText_append {front back : String} (frontSome : front ≠ "") (frontNoPoint : front ≠ ".")
    (backSome : back ≠ "") (backNoPoint : back ≠ ".") :
    ofText (front ++ "." ++ back) = ofText front ++ ofText back := by
  have parts : (front ++ "." ++ back).toList = front.toList ++ '.' :: back.toList := by simp
  -- The point has texts on both sides, so the whole is longer than a text of the root.
  have frontLength : front.toList ≠ [] := by simpa using frontSome
  have joinedSome : front ++ "." ++ back ≠ "" := by
    intro empty
    simp [empty] at parts
  have joinedNoPoint : front ++ "." ++ back ≠ "." := by
    intro point
    rw [point] at parts
    obtain ⟨first, more, found⟩ := List.exists_cons_of_ne_nil frontLength
    simp [found] at parts
  rw [ofText_eq_map joinedSome joinedNoPoint, ofText_eq_map frontSome frontNoPoint,
    ofText_eq_map backSome backNoPoint, parts, List.splitOn_append_cons_self, List.map_append]

end NodePath

namespace Json

/-- A path behind another one starts at the node that the other one leads to. -/
theorem resolve_append (node : Json) (front back : NodePath) :
    node.resolve (front ++ back) = (node.resolve front).bind fun next => next.resolve back := by
  induction front generalizing node with
  | nil => rfl
  | cons segment rest ih =>
    -- The first step is the same for both, and a step that finds nothing ends both.
    rw [List.cons_append, resolve, resolve]
    cases node.child segment with
    | none => rfl
    | some next => exact ih next

/-- An empty array leads nowhere but to itself. -/
theorem resolve_nothing (path : NodePath) :
    (array []).resolve path = if path = [] then some (array []) else none := by
  cases path with
  | nil => rfl
  | cons segment rest =>
    cases segment with
    | index position => rfl
    | field name => cases found : position? name <;> simp [resolve, child, found]

end Json

end RecordFilter
