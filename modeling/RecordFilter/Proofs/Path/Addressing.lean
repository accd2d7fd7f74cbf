import RecordFilter.Proofs.Evaluation.Absence
import RecordFilter.Proofs.Path.RoundTrip

/-! Every part of a document is found by the text of the way to it, although
keys and positions look alike there. -/

namespace RecordFilter

namespace Json

/-- One step down a document: a key leads into an object, and a position into an array. -/
inductive Leads : Json → Segment → Json → Prop
  /-- A key leads to the first member that has it. -/
  | member {front back : List (String × Json)} {key : String} {value : Json}
      (first : key ∉ front.map Prod.fst) :
      Leads (object (front ++ (key, value) :: back)) (.field key) value
  /-- A position, which is a number of 64 bits, leads to the item behind as many others. -/
  | item {front back : List Json} {value : Json} (inRange : front.length < twoTo 64) :
      Leads (array (front ++ value :: back)) (.index front.length) value

/-- A chain of steps down a document. -/
inductive Chain : Json → NodePath → Json → Prop
  /-- Without a step the chain stays where it is. -/
  | nil {node : Json} : Chain node [] node
  /-- The others go on where the first step has led. -/
  | cons {node next final : Json} {step : Segment} {rest : NodePath} (leads : Leads node step next)
      (others : Chain next rest final) : Chain node (step :: rest) final

/-- A step that names nothing in a part of a document. -/
inductive Lacks : Json → Segment → Prop
  /-- No member has the key, or the key that is written like the position. -/
  | member {members : List (String × Json)} {step : Segment}
      (absent : step.text ∉ members.map Prod.fst) : Lacks (object members) step
  /-- There are not so many items. -/
  | item {items : List Json} {position : Nat} (beyond : items.length ≤ position) :
      Lacks (array items) (.index position)
  /-- The key is not written like the position of any item. -/
  | key {items : List Json} {name : String}
      (absent : ∀ position, position < items.length → name ≠ (Segment.index position).text) :
      Lacks (array items) (.field name)
  /-- What is neither an array nor an object has nothing inside. -/
  | scalar {node : Json} {step : Segment} (isScalar : node.isScalar = true) : Lacks node step

variable {root node next : Json} {step : Segment} {path : NodePath} {name : String}

/-- A key is found in an object under its own text, also where that is read as a position. -/
theorem child_object (members : List (String × Json)) (plain : ¬PositionPadded name.toList) :
    (object members).child (Segment.ofText name) = find? name members := by
  cases found : position? name with
  | none => rw [Segment.ofText_of_none found, child]
  | some position =>
    -- The position is written just as the key is.
    rw [Segment.ofText_of_position found, child, Segment.text, ← eq_ofList_digits found plain]

/-- A text leads into an array if it spells the position of an item. -/
theorem child_array (items : List Json) (name : String) :
    (array items).child (Segment.ofText name) =
      (position? name).bind fun position => items[position]? := by
  -- A text that names no position leads into no array, whether it is a key or not.
  cases found : position? name with
  | none => rw [Segment.ofText_of_none found, child, found]
  | some position => rw [Segment.ofText_of_position found, child, Option.bind_some]

/-- Nothing leads into what is neither an array nor an object. -/
theorem child_scalar (isScalar : node.isScalar = true) (step : Segment) : node.child step = none := by
  cases node with
  | array items => simp [Json.isScalar] at isScalar
  | object members => simp [Json.isScalar] at isScalar
  | _ => cases step <;> rfl

/-- A step is taken by the text of its key or of its position. -/
theorem child_of_leads (leads : Leads node step next) (plain : ¬PositionPadded step.text.toList) :
    node.child (Segment.ofText step.text) = some next := by
  cases leads with
  | @member front back key value first =>
    -- No member in front has the key, so the search goes on to this one.
    rw [child_object _ plain, Segment.text, find?_append, find?_eq_none first, Option.none_or]
    simp [find?]
  | @item front back value inRange =>
    rw [child_array, Segment.text, position?_digits inRange, Option.bind_some]
    simp

/-- A step that names nothing leads nowhere, and neither does its text. -/
theorem child_of_lacks (lacks : Lacks node step) (plain : ¬PositionPadded step.text.toList) :
    node.child (Segment.ofText step.text) = none := by
  cases lacks with
  | member absent => rw [child_object _ plain, find?_eq_none absent]
  | scalar isScalar => exact child_scalar isScalar _
  | @item items position beyond =>
    rw [child_array]
    cases found : position? (Segment.index position).text with
    | none => rfl
    | some other =>
      -- The number is read back as itself, unless it is too great for a position.
      have same := (position?_eq_some_iff.mp found).eq_digits plain
      rw [Segment.text, String.toList_ofList] at same
      have equal : position = other := by rw [← ofDigits_digits position, same, ofDigits_digits]
      rw [Option.bind_some, ← equal]
      exact List.getElem?_eq_none beyond
  | @key items name absent =>
    rw [child_array]
    cases found : position? name with
    | none => rw [Segment.text, found]; rfl
    | some position =>
      rw [Segment.text, found, Option.bind_some]
      refine List.getElem?_eq_none (Nat.le_of_not_lt fun inside => ?_)
      -- A key that is read as the position of an item is written like it.
      exact absent position inside (eq_ofList_digits found plain)

/-- A chain is followed by the texts of its steps. -/
theorem resolve_of_chain (chain : Chain root path node)
    (plain : ∀ step ∈ path, ¬PositionPadded step.text.toList) :
    root.resolve (path.map fun step => Segment.ofText step.text) = some node := by
  induction chain with
  | nil => rfl
  | cons leads others ih =>
    -- Each step of the chain takes one segment, however that was read.
    obtain ⟨first, rest⟩ := List.forall_mem_cons.mp plain
    rw [List.map_cons, resolve, child_of_leads leads first, Option.bind_some]
    exact ih rest

/--
Every part of a document is found by the keys and positions on the way to it, written with points
between them. The way must not be written like the root, and no key may hold a point or be padded as
a position. Numbers may be keys of objects as well as positions in arrays, however great they are.
Where the last step names nothing that is there, nothing is found.
-/
theorem resolve_text (root : Json) (path : NodePath)
    (keys : ∀ name, .field name ∈ path → '.' ∉ name.toList ∧ ¬PositionPadded name.toList)
    (notEmpty : path.text ≠ "") (notPoint : path.text ≠ ".") :
    (∀ node, Chain root path node → root.resolve (NodePath.ofText path.text) = some node) ∧
    ∀ front last container, path = front ++ [last] → Chain root front container →
      Lacks container last → root.resolve (NodePath.ofText path.text) = none := by
  -- Keys are not padded by assumption, and positions never are.
  have plain : ∀ step ∈ path, ¬PositionPadded step.text.toList := by
    intro step inside
    cases step with
    | field name => exact (keys name inside).2
    | index position =>
      rw [Segment.text, String.toList_ofList]
      exact not_positionPadded_digits position
  rw [NodePath.ofText_text_eq_map (fun name inside => (keys name inside).1) notEmpty notPoint]
  refine ⟨fun node chain => resolve_of_chain chain plain, ?_⟩
  rintro front last container rfl chain lacks
  -- All steps but the last one lead on, and the last one fails.
  have reached := resolve_of_chain chain fun step inside =>
    plain step (List.mem_append_left _ inside)
  have fails := child_of_lacks lacks (plain last (by simp))
  rw [List.map_append, resolve_append, reached, Option.bind_some, List.map_singleton, resolve, fails,
    Option.bind_none]

/-- A document with an empty key, and with a position and a number beyond all positions as keys. -/
def numberedDocument : Json :=
  object [("7", object [("", array [bool false, object [("18446744073709551616", null)]])])]

/-- A null is found behind two keys that are numbers, an empty one and a position, and no item
behind the last. -/
theorem resolve_text_numbers :
    numberedDocument.resolve (NodePath.ofText "7..1.18446744073709551616") = some null ∧
      numberedDocument.resolve (NodePath.ofText "7..2") = none := by
  have plain : ∀ name ∈ ["7", "", "18446744073709551616"],
      '.' ∉ name.toList ∧ ¬PositionPadded name.toList := by
    intro name inside
    simp only [List.mem_cons, List.not_mem_nil, or_false] at inside
    -- None of the three begins with a plus sign or a zero.
    rcases inside with rfl | rfl | rfl <;>
      exact ⟨by decide, fun padded => by obtain ⟨-, rest, front⟩ := padded; simp at front⟩
  have toArray : Chain numberedDocument [.field "7", .field ""]
      (array [bool false, object [("18446744073709551616", null)]]) :=
    .cons (@Leads.member [] [] _ _ (by simp)) (.cons (@Leads.member [] [] _ _ (by simp)) .nil)
  constructor
  · have toNull : Chain numberedDocument
        [.field "7", .field "", .index 1, .field "18446744073709551616"] null :=
      .cons (@Leads.member [] [] _ _ (by simp)) <| .cons (@Leads.member [] [] _ _ (by simp)) <|
        .cons (@Leads.item [bool false] [] _ (by decide)) <|
          .cons (@Leads.member [] [] _ _ (by simp)) .nil
    have written : NodePath.text [.field "7", .field "", .index 1, .field "18446744073709551616"] =
        "7..1.18446744073709551616" := by decide +kernel
    rw [← written]
    refine (resolve_text numberedDocument _ ?_ ?_ ?_).1 null toNull
    · intro name inside
      exact plain name (by simpa using inside)
    · decide
    · decide
  · have written : NodePath.text [.field "7", .field "", .index 2] = "7..2" := by decide +kernel
    rw [← written]
    refine (resolve_text numberedDocument [.field "7", .field "", .index 2] ?_ ?_ ?_).2
      [.field "7", .field ""] (.index 2) _ rfl toArray (.item (by decide))
    · intro name inside
      have named : name = "7" ∨ name = "" := by simpa using inside
      exact plain name (by rcases named with rfl | rfl <;> simp)
    · decide
    · decide

end Json

end RecordFilter
