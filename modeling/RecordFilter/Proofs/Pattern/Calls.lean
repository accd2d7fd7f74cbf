import RecordFilter.Pattern.Reader

/-!
The readers of patterns count their calls down. What one of them reads with some number of calls it
reads just the same with more of them, so two readings of a text differ in nothing but the calls
that are left.
-/

namespace RecordFilter.Pattern

variable [Engine]

-- The three readers call each other with one call less, so the induction is on the number of calls.
-- Classes are no part of it: their calls are counted anew, by the length of the text.
mutual

/-- Alternatives that are read with some calls are read with more. -/
theorem readAlternatives_of_le {fuel longer : Nat} {scope : Scope} {text : List Char}
    {found : Regex × Scope × List Char} (enough : fuel ≤ longer)
    (reads : readAlternatives fuel scope text = some found) :
    readAlternatives longer scope text = some found := by
  cases fuel with
  | zero => simp [readAlternatives] at reads
  | succ fuel =>
    obtain ⟨longer, rfl⟩ := Nat.exists_eq_add_of_le' (show 1 ≤ longer by omega)
    have fewer : fuel ≤ longer := by omega
    simp only [readAlternatives] at reads ⊢
    obtain ⟨⟨first, afterFirst, behind⟩, readsFirst, reads⟩ := Option.bind_eq_some_iff.mp reads
    rw [readSequence_of_le fewer readsFirst, Option.bind_some]
    dsimp only at reads ⊢
    split at reads
    -- A bar is followed by further alternatives, and anything else ends them.
    case h_1 =>
      obtain ⟨second, readsSecond, rfl⟩ := Option.map_eq_some_iff.mp reads
      rw [readAlternatives_of_le fewer readsSecond, Option.map_some]
    case h_2 => exact reads

/-- A sequence that is read with some calls is read with more. -/
theorem readSequence_of_le {fuel longer : Nat} {scope : Scope} {last : Option Regex}
    {text : List Char} {found : Regex × Scope × List Char} (enough : fuel ≤ longer)
    (reads : readSequence fuel scope last text = some found) :
    readSequence longer scope last text = some found := by
  cases fuel with
  | zero => simp [readSequence] at reads
  | succ fuel =>
    obtain ⟨longer, rfl⟩ := Nat.exists_eq_add_of_le' (show 1 ≤ longer by omega)
    have fewer : fuel ≤ longer := by omega
    simp only [readSequence] at reads ⊢
    split at reads
    -- The other arms end the sequence, and make no further call.
    case h_4 =>
      obtain ⟨repetition, sign, reads⟩ := Option.bind_eq_some_iff.mp reads
      rw [sign, Option.bind_some]
      split at reads
      -- A sign of repetition takes the item in front of it, which must be there.
      case h_1 =>
        obtain ⟨item, rfl, reads⟩ := Option.bind_eq_some_iff.mp reads
        exact readSequence_of_le fewer reads
      -- Anything else is an item of its own, with the others behind it.
      case h_2 =>
        obtain ⟨⟨item, afterItem, behind⟩, readsItem, reads⟩ := Option.bind_eq_some_iff.mp reads
        obtain ⟨others, readsOthers, rfl⟩ := Option.map_eq_some_iff.mp reads
        simp only [readItem_of_le fewer readsItem, Option.bind_some,
          readSequence_of_le fewer readsOthers, Option.map_some]
    all_goals exact reads

/-- An item that is read with some calls is read with more. -/
theorem readItem_of_le {fuel longer : Nat} {scope : Scope} {text : List Char}
    {found : Option Regex × Scope × List Char} (enough : fuel ≤ longer)
    (reads : readItem fuel scope text = some found) : readItem longer scope text = some found := by
  cases fuel with
  | zero => simp [readItem] at reads
  | succ fuel =>
    obtain ⟨longer, rfl⟩ := Nat.exists_eq_add_of_le' (show 1 ≤ longer by omega)
    unfold readItem at reads ⊢
    split at reads
    -- Only groups are read by further calls.
    case h_1 =>
      obtain ⟨opening, opens, reads⟩ := Option.bind_eq_some_iff.mp reads
      simp only [opens, Option.bind_some]
      cases opening with
      | flags => exact reads
      | group =>
        obtain ⟨inner, readsInner, reads⟩ := Option.bind_eq_some_iff.mp reads
        simp only [readAlternatives_of_le (show fuel ≤ longer by omega) readsInner, Option.bind_some]
        exact reads
    all_goals exact reads

end

end RecordFilter.Pattern
