import RecordFilter.Delivery

/-! A writer that fails is left with the start of a document, wherever the document is cut. -/

namespace RecordFilter

namespace Writer

variable {text more : List Char}

/-- The bytes of two texts are those of the one and then those of the other. -/
theorem bytesOf_append : bytesOf (text ++ more) = bytesOf text ++ bytesOf more :=
  List.flatMap_append

/-- Two pieces are taken like the one text that they make, the second
only where the first has gone in. -/
theorem put_append (writer : Writer) (text more : List Char) :
    writer.put (text ++ more) =
      match writer.put text with
      | (later, true) => later.put more
      | (later, false) => (later, false) := by
  obtain ⟨taken, room, fault⟩ := writer
  cases room with
  | none => simp [put, bytesOf_append]
  | some room =>
    by_cases fits : (bytesOf text).length ≤ room
    · -- What the first piece leaves of the room is there for the second.
      have left : room - (bytesOf text).length - (bytesOf more).length =
          room - ((bytesOf text).length + (bytesOf more).length) := by omega
      have both : (bytesOf more).length ≤ room - (bytesOf text).length ↔
          (bytesOf text).length + (bytesOf more).length ≤ room := by omega
      simp [put, bytesOf_append, fits, List.take_append, List.take_of_length_le fits, left, both]
    · -- The first piece uses up the room, so nothing of the second is taken.
      have full : room - (bytesOf text).length = 0 := by omega
      have both : ¬(bytesOf text).length + (bytesOf more).length ≤ room := by omega
      have none_ : room - ((bytesOf text).length + (bytesOf more).length) = 0 := by omega
      simp [put, bytesOf_append, fits, List.take_append, full, both, none_]

/-- Any number of pieces is taken like the one text that they make. -/
theorem putAll_eq_put (writer : Writer) (pieces : List (List Char)) :
    writer.putAll pieces = writer.put pieces.flatten := by
  induction pieces generalizing writer with
  | nil =>
    obtain ⟨taken, room, fault⟩ := writer
    -- Without a piece nothing is taken, with or without a limit.
    cases room <;> simp [putAll, put, bytesOf]
  | cons piece rest ih =>
    rw [putAll, List.flatten_cons, put_append]
    -- The rest is only written where the first piece has been taken as a whole.
    obtain ⟨later, complete⟩ := writer.put piece
    cases complete with
    | true => exact ih later
    | false => rfl

/-- A writer without a limit takes the whole of a document. -/
theorem putDocument_unlimited (style : Style) (value : Json) (fault : WriterFault) :
    (new none fault).putDocument style value =
      (⟨bytesOf (style.document value), none, fault⟩, .ok ()) := by
  simp [putDocument, putAll_eq_put, put, new, Style.document]

/--
A writer that takes a number of bytes and then fails is left with so many bytes of what a writer
without a limit takes, and with all of them if there are no more. Showing a document succeeds
exactly if every byte has been taken, the last line end among them, or if the writer fails because
nobody reads any more; otherwise it is told that the document was not written. In however many
pieces the text of the document is written, the same is left of the writer.
-/
theorem putDocument_cutOff (style : Style) (value : Json) (fault : WriterFault) (limit : Nat) :
    let whole := ((new none fault).putDocument style value).1.taken
    let (cut, result) := (new (some limit) fault).putDocument style value
    whole = bytesOf (style.pieces 0 value).flatten ++ bytesOf ['\n'] ∧
    cut.taken = whole.take (min limit whole.length) ∧
    result = (if whole.length ≤ limit ∨ fault = .brokenPipe then .ok () else .error .notWritten) ∧
    ∀ pieces, pieces.flatten = style.document value →
      (new (some limit) fault).putAll pieces = (cut, decide (whole.length ≤ limit)) := by
  intro whole
  -- A writer without a limit tells what there is to be written.
  have whole_ : whole = bytesOf (style.document value) :=
    congrArg (·.1.taken) (putDocument_unlimited style value fault)
  have shown : (style.documentPieces value).flatten = style.document value := rfl
  simp only [putDocument, putAll_eq_put, shown, whole_]
  refine ⟨?_, ?_, ?_, ?_⟩
  · rw [← bytesOf_append, Style.document, Style.documentPieces, List.flatten_append,
      List.flatten_singleton]
  · -- Nothing has been taken before, and no more than there is can be taken.
    simp [put, new, List.take_eq_take_iff]
  · simp [put, new]
  · -- Pieces that make the same text are taken like it, however they are cut.
    intro pieces same
    rw [same]
    rfl

/-- A colour is cut in the middle of the sequence that chooses it, and
each character is written on its own. -/
theorem putDocument_cutOff_color :
    ((new (some 3) .other).putDocument ⟨true, true⟩ .null).1.taken = [27, 91, 50] ∧
      ((new (some 3) .other).putDocument ⟨true, true⟩ .null).2 = .error .notWritten ∧
      ((new (some 3) .other).putAll
        ((Style.document ⟨true, true⟩ .null).map fun character => [character])).2 = false := by
  obtain ⟨_, taken, result, pieces⟩ := putDocument_cutOff ⟨true, true⟩ .null .other 3
  have single : ((Style.document ⟨true, true⟩ .null).map fun character => [character]).flatten =
      Style.document ⟨true, true⟩ .null := by decide
  refine ⟨taken.trans (by decide), result.trans (if_neg (by decide)), ?_⟩
  rw [pieces _ single]
  decide

end Writer

end RecordFilter
