import RecordFilter.Proofs.Rendering.Cutoff
import RecordFilter.Proofs.Rendering.Erasing

/-! However a document is shown, its compact text is left once colours and layout are erased. -/

namespace RecordFilter

/-- Whether an eraser leaves one text of another, whatever follows it. -/
def Reduces (erase : List Char → List Char) (text left : List Char) : Prop :=
  ∀ rest, erase (text ++ rest) = left ++ erase rest

namespace Reduces

variable {erase : List Char → List Char} {text left more moreLeft : List Char}

/-- Nothing is left of nothing. -/
theorem nil : Reduces erase [] [] :=
  fun _ => rfl

/-- What is left of two texts stands in their order. -/
theorem append (front : Reduces erase text left) (back : Reduces erase more moreLeft) :
    Reduces erase (text ++ more) (left ++ moreLeft) := by
  intro rest
  -- The front is erased with the back still behind it.
  rw [List.append_assoc, front, back, List.append_assoc]

end Reduces

namespace Style

/-- An eraser that takes the pieces of one style for those of another. -/
structure Reduction (erase : List Char → List Char) (shown bare : Style) : Prop where
  /-- What opens, separates and closes containers stays. -/
  mark : ∀ character ∈ ['[', ']', '\x7b', '\x7d', ','], Reduces erase [character] [character]
  /-- The start of a line becomes that of the other style. -/
  newline : ∀ indent, Reduces erase (shown.newline indent) (bare.newline indent)
  /-- What stands between a key and its value becomes that of the other style. -/
  colon : Reduces erase shown.colon bare.colon
  /-- A painted token becomes the token painted in the other style. -/
  paint : ∀ role text, Json.Token text → Reduces erase (shown.paint role text) (bare.paint role text)

variable {erase : List Char → List Char} {shown bare : Style}

mutual

/-- A document is reduced to the same document in the other style, piece by piece. -/
theorem Reduction.pieces (reduction : Reduction erase shown bare) (indent : Nat) (value : Json) :
    Reduces erase (shown.pieces indent value).flatten (bare.pieces indent value).flatten := by
  cases value with
  | null => simpa [Style.pieces] using reduction.paint .null _ .null
  | bool value => simpa [Style.pieces] using reduction.paint .bool _ (.bool value)
  | number value => simpa [Style.pieces] using reduction.paint .number _ (.number value)
  | string text => simpa [Style.pieces] using reduction.paint .string _ (.quoted text)
  | array items =>
    have opening := reduction.mark '[' (by simp)
    have closing := reduction.mark ']' (by simp)
    -- No line is broken in an empty container, whatever the style.
    cases items with
    | nil => simpa [Style.pieces] using opening.append closing
    | cons item rest =>
      have inner := reduction.itemPieces (indent + indentStep) (item :: rest)
      simpa [Style.pieces] using
        opening.append (inner.append ((reduction.newline indent).append closing))
  | object members =>
    have opening := reduction.mark '\x7b' (by simp)
    have closing := reduction.mark '\x7d' (by simp)
    cases members with
    | nil => simpa [Style.pieces] using opening.append closing
    | cons member rest =>
      have inner := reduction.memberPieces (indent + indentStep) (member :: rest)
      simpa [Style.pieces] using
        opening.append (inner.append ((reduction.newline indent).append closing))

/-- So are the items of an array. -/
theorem Reduction.itemPieces (reduction : Reduction erase shown bare) (indent : Nat)
    (items : List Json) :
    Reduces erase (shown.itemPieces indent items).flatten (bare.itemPieces indent items).flatten := by
  cases items with
  | nil => exact Reduces.nil
  | cons item rest =>
    have first := (reduction.newline indent).append (reduction.pieces indent item)
    -- A comma stands only in front of another item.
    cases rest with
    | nil => simpa [Style.itemPieces] using first
    | cons next more =>
      have others := reduction.itemPieces indent (next :: more)
      simpa [Style.itemPieces] using first.append ((reduction.mark ',' (by simp)).append others)

/-- So are the members of an object. -/
theorem Reduction.memberPieces (reduction : Reduction erase shown bare) (indent : Nat)
    (members : List (String × Json)) :
    Reduces erase (shown.memberPieces indent members).flatten
      (bare.memberPieces indent members).flatten := by
  cases members with
  | nil => exact Reduces.nil
  | cons member rest =>
    obtain ⟨key, value⟩ := member
    -- A key is a token like a string, in a colour of its own.
    have named := (reduction.newline indent).append (reduction.paint .key _ (.quoted key))
    have first := named.append (reduction.colon.append (reduction.pieces indent value))
    cases rest with
    | nil => simpa [Style.memberPieces] using first
    | cons next more =>
      have others := reduction.memberPieces indent (next :: more)
      simpa [Style.memberPieces] using first.append ((reduction.mark ',' (by simp)).append others)

end

/-- Erasing the colours leaves the same document without colours. -/
theorem reduction_withoutColors (pretty color : Bool) :
    Reduction withoutColors ⟨pretty, color⟩ ⟨pretty, false⟩ where
  mark character member rest := by
    have plain : ∀ mark ∈ ['[', ']', '\x7b', '\x7d', ','], mark ≠ escape := by simp [escape]
    exact withoutColors_cons (plain character member)
  newline indent rest := by
    -- Both styles break their lines alike, and neither colours what stands between them.
    refine withoutColors_append fun character member => ?_
    unfold newline at member
    split at member
    · rcases List.mem_cons.mp member with rfl | space
      · decide
      · rw [List.eq_of_mem_replicate space]
        decide
    · simp at member
  colon rest := by
    -- The colon is never coloured, and the space behind it depends on the layout alone.
    refine withoutColors_append ?_
    cases pretty <;> cases color <;> simp [colon, escape]
  paint role text token rest := by
    refine withoutColors_paint ⟨pretty, color⟩ role fun character member => ?_
    -- The escape character is none of the visible ones, which is all that tokens show.
    have visible := token.visible character member
    rintro rfl
    exact absurd visible (by decide)

/-- Erasing the layout leaves the same document on one line. -/
theorem reduction_withoutLayout (pretty : Bool) :
    Reduction (withoutLayout .between) ⟨pretty, false⟩ ⟨false, false⟩ where
  mark character member rest := by
    refine withoutLayout_append fun mark same => ?_
    obtain rfl := List.mem_singleton.mp same
    -- The five marks are visible, and none of them is a quotation mark.
    have plain : ∀ mark ∈ ['[', ']', '\x7b', '\x7d', ','],
        32 ≤ mark.toNat ∧ mark ≠ ' ' ∧ mark ≠ '"' := by simp
    exact plain mark member
  newline indent rest := withoutLayout_newline ⟨pretty, false⟩ indent
  colon rest := by cases pretty <;> rfl
  paint role text token rest := withoutLayout_token token

mutual

/-- On one line and without colours a document is its compact text. -/
theorem flatten_pieces_plain (indent : Nat) (value : Json) :
    (pieces ⟨false, false⟩ indent value).flatten = value.write := by
  cases value with
  | null => rfl
  | bool value => cases value <;> rfl
  | number value => simp [pieces, paint, Json.write]
  | string text => simp [pieces, paint, Json.write]
  | array items =>
    cases items with
    | nil => rfl
    | cons item rest =>
      -- The start of a line is empty in this style, so the items follow the bracket.
      simp [pieces, newline, Json.write, flatten_itemPieces_plain (indent + indentStep) (item :: rest)]
  | object members =>
    cases members with
    | nil => rfl
    | cons member rest =>
      simp [pieces, newline, Json.write,
        flatten_memberPieces_plain (indent + indentStep) (member :: rest)]

/-- So do its items. -/
theorem flatten_itemPieces_plain (indent : Nat) (items : List Json) :
    (itemPieces ⟨false, false⟩ indent items).flatten = Json.writeItems items := by
  cases items with
  | nil => rfl
  | cons item rest =>
    have first := flatten_pieces_plain indent item
    cases rest with
    | nil => simpa [itemPieces, newline, Json.writeItems] using first
    | cons next more =>
      have others := flatten_itemPieces_plain indent (next :: more)
      simp [itemPieces, newline, Json.writeItems, first, others]

/-- So do its members. -/
theorem flatten_memberPieces_plain (indent : Nat) (members : List (String × Json)) :
    (memberPieces ⟨false, false⟩ indent members).flatten = Json.writeMembers members := by
  cases members with
  | nil => rfl
  | cons member rest =>
    obtain ⟨key, value⟩ := member
    have first := flatten_pieces_plain indent value
    cases rest with
    | nil => simp [memberPieces, newline, colon, paint, Json.writeMembers, first]
    | cons next more =>
      have others := flatten_memberPieces_plain indent (next :: more)
      simp [memberPieces, newline, colon, paint, Json.writeMembers, first, others]

end

/-- Without its colours a document is the document of the same layout without colours. -/
theorem withoutColors_document (pretty color : Bool) (value : Json) :
    withoutColors (document ⟨pretty, color⟩ value) = document ⟨pretty, false⟩ value := by
  have end_ : withoutColors ['\n'] = ['\n'] := by
    rw [withoutColors_cons (by decide), withoutColors_nil]
  have reduced := (reduction_withoutColors pretty color).pieces 0 value ['\n']
  simpa [document, documentPieces, end_] using reduced

/-- Without its layout an uncoloured document is the compact text. -/
theorem withoutLayout_document (pretty : Bool) (value : Json) :
    withoutLayout .between (document ⟨pretty, false⟩ value) = value.write := by
  have reduced := (reduction_withoutLayout pretty).pieces 0 value ['\n']
  rw [flatten_pieces_plain] at reduced
  -- The end of the last line is layout like any other.
  simpa [document, documentPieces, withoutLayout] using reduced

end Style

namespace Writer

/--
A writer that takes everything is given a text that is the compact text of the document, once its
colour sequences and the layout between its string literals are erased. Without colours and layout
it is the compact text and a line end, and colours add nothing but their sequences.
-/
theorem putDocument_reduces_to_compact (style : Style) (fault : WriterFault) (value : Json) :
    (new none fault).putDocument style value =
        (⟨bytesOf (style.document value), none, fault⟩, .ok ()) ∧
      withoutLayout .between (withoutColors (style.document value)) = value.write ∧
      Style.document ⟨false, false⟩ value = value.write ++ ['\n'] ∧
      ∀ pretty, withoutColors (Style.document ⟨pretty, true⟩ value) =
        Style.document ⟨pretty, false⟩ value := by
  obtain ⟨pretty, color⟩ := style
  refine ⟨?_, ?_, ?_, fun pretty => Style.withoutColors_document pretty true value⟩
  · exact putDocument_unlimited _ value fault
  · rw [Style.withoutColors_document, Style.withoutLayout_document]
  · simp [Style.document, Style.documentPieces, Style.flatten_pieces_plain]

end Writer

end RecordFilter
