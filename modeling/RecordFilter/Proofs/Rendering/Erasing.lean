import RecordFilter.Rendering
import RecordFilter.Proofs.Json.NumberWriting

/-! Erasing colour sequences and layout from a text, and what both
leave of the tokens of a document. -/

namespace RecordFilter

/-- Whether a character may stand among the numbers of a colour sequence. -/
def isColorNumber (character : Char) : Bool :=
  character.isDigit || character == ';'

/-- What follows the colour sequence that a text begins with, if it begins with one. -/
def afterColor? : List Char → Option (List Char)
  | '\x1b' :: '[' :: rest =>
    -- Only the letter m ends a sequence that chooses a colour.
    match rest.dropWhile isColorNumber with
    | 'm' :: after => some after
    | _ => none
  | _ => none

/-- A colour sequence takes up a part of the text. -/
theorem length_of_afterColor? {text after : List Char} (found : afterColor? text = some after) :
    after.length < text.length := by
  unfold afterColor? at found
  split at found
  · rename_i rest
    split at found
    · rename_i behind ends
      obtain rfl := Option.some.inj found
      -- Dropping numbers makes no text longer.
      have shorter := (List.dropWhile_sublist isColorNumber (l := rest)).length_le
      simp only [ends, List.length_cons] at shorter ⊢
      omega
    · contradiction
  · contradiction

/-- A text without its colour sequences. -/
def withoutColors : List Char → List Char
  | [] => []
  | character :: rest =>
    match _found : afterColor? (character :: rest) with
    | some after => withoutColors after
    | none => character :: withoutColors rest
termination_by text => text.length
decreasing_by
  · exact length_of_afterColor? ‹_›
  · simp

/-- Where a character of a document stands, as far as string literals are concerned. -/
inductive Place
  /-- Between the literals. -/
  | between
  /-- Inside a literal. -/
  | inside
  /-- Behind a backslash inside a literal. -/
  | escaped
deriving DecidableEq

namespace Place

/-- The place behind a character. -/
def next : Place → Char → Place
  | between, character => if character == '"' then inside else between
  | inside, character =>
    if character == '"' then between else if character == '\\' then escaped else inside
  -- A quotation mark behind a backslash ends no literal.
  | escaped, _ => inside

end Place

/-- A text without the spaces and line ends between its string literals. -/
def withoutLayout (place : Place) : List Char → List Char
  | [] => []
  | character :: rest =>
    if place == .between && (character == ' ' || character == '\n') then withoutLayout place rest
    else character :: withoutLayout (place.next character) rest

namespace Json

/-- A text that documents have in common, however they are shown: a
word, a number, or a quoted string. -/
inductive Token : List Char → Prop
  /-- The word for null. -/
  | null : Token (write .null)
  /-- A word for a truth value. -/
  | bool (value : Bool) : Token (write (.bool value))
  /-- A number. -/
  | number (value : Number) : Token value.text
  /-- A string or a key. -/
  | quoted (text : String) : Token (quote text)

/-- The digits of a control character are visible, and neither quotation mark nor backslash. -/
theorem hexDigit_plain :
    ∀ value < 16, 32 ≤ (hexDigit value).toNat ∧ hexDigit value ≠ '"' ∧ hexDigit value ≠ '\\' := by
  -- Sixteen digits, each looked at on its own.
  decide

/-- An escaped character shows no control characters. -/
theorem escape_visible (character : Char) : ∀ shown ∈ escape character, 32 ≤ shown.toNat := by
  unfold escape
  -- The short escapes are two visible characters each, and the last arm takes all others.
  split
  case h_8 =>
    split
    case isTrue control =>
      have high := (hexDigit_plain (character.toNat / 16) (by omega)).1
      have low := (hexDigit_plain (character.toNat % 16) (by omega)).1
      simp [high, low]
    case isFalse visible => simpa using visible
  all_goals simp

/-- A quoted string shows no control characters. -/
theorem quote_visible (text : String) : ∀ shown ∈ quote text, 32 ≤ shown.toNat := by
  intro shown member
  simp only [quote, List.mem_cons, List.mem_append, List.mem_flatMap, List.not_mem_nil,
    or_false] at member
  -- Both marks are visible, and so is whatever the characters between them are escaped to.
  rcases member with (rfl | ⟨character, _, escaped⟩) | rfl
  · decide
  · exact escape_visible character shown escaped
  · decide

/-- A character of a number is visible, and neither space nor quotation mark. -/
theorem isNumberCharacter_plain {character : Char} (belongs : isNumberCharacter character = true) :
    32 ≤ character.toNat ∧ character ≠ ' ' ∧ character ≠ '"' := by
  simp only [isNumberCharacter, Bool.or_eq_true, List.contains_cons, List.contains_nil, beq_iff_eq,
    Bool.or_false] at belongs
  rcases belongs with digit | rfl | rfl | rfl | rfl
  · -- Digits lie above the space and the quotation mark.
    have low : '0' ≤ character := by
      simp only [Char.isDigit, Bool.and_eq_true, decide_eq_true_eq] at digit
      exact digit.1
    have code : 48 ≤ character.toNat := UInt32.le_iff_toNat_le.mp low
    refine ⟨by omega, ?_, ?_⟩ <;>
    · rintro rfl
      exact absurd code (by decide)
  all_goals decide

/-- No token shows a control character, and so none is taken for a part of a colour sequence. -/
theorem Token.visible {text : List Char} (token : Token text) : ∀ shown ∈ text, 32 ≤ shown.toNat := by
  -- Words are known letter by letter, numbers and strings by the characters they are made of.
  cases token with
  | null => simp [write]
  | bool value => cases value <;> simp [write]
  | number value =>
    exact fun shown member => (isNumberCharacter_plain (value.onlyNumber_text shown member)).1
  | quoted text => exact quote_visible text

end Json

section Colors

variable {text rest : List Char}

/-- The empty text has no colours. -/
@[simp] theorem withoutColors_nil : withoutColors [] = [] := by
  simp [withoutColors]

/-- A character that starts no sequence stays. -/
theorem withoutColors_cons {character : Char} (plain : character ≠ Style.escape) :
    withoutColors (character :: rest) = character :: withoutColors rest := by
  -- Nothing but the escape character begins a sequence.
  have none_ : afterColor? (character :: rest) = none := by
    unfold afterColor?
    split
    · rename_i same
      exact absurd (List.cons.inj same).1 plain
    · rfl
  rw [withoutColors]
  split
  · rename_i found
    rw [none_] at found
    contradiction
  · rfl

/-- A text without escape characters stays as it is. -/
theorem withoutColors_append (plain : ∀ character ∈ text, character ≠ Style.escape) :
    withoutColors (text ++ rest) = text ++ withoutColors rest := by
  induction text with
  | nil => rfl
  | cons character more ih =>
    obtain ⟨first, others⟩ := List.forall_mem_cons.mp plain
    rw [List.cons_append, withoutColors_cons first, ih others, List.cons_append]

/-- A colour sequence is erased, whatever it chooses. -/
theorem withoutColors_sequence {numbers : List Char}
    (all : ∀ character ∈ numbers, isColorNumber character = true) :
    withoutColors (Style.escape :: '[' :: (numbers ++ 'm' :: rest)) = withoutColors rest := by
  -- The letter is no number, so the numbers end in front of it and the sequence is whole.
  have found : afterColor? (Style.escape :: '[' :: (numbers ++ 'm' :: rest)) = some rest := by
    have ends : (numbers ++ 'm' :: rest).dropWhile isColorNumber = 'm' :: rest := by
      rw [List.dropWhile_append_of_pos all]
      rfl
    simp [afterColor?, Style.escape, ends]
  rw [withoutColors]
  split
  · rename_i after same
    rw [found] at same
    rw [Option.some.inj same]
  · rename_i same
    rw [found] at same
    contradiction

/-- A painted text is the text, once its colours are erased. -/
theorem withoutColors_paint (style : Style) (role : Role)
    (plain : ∀ character ∈ text, character ≠ Style.escape) :
    withoutColors (style.paint role text ++ rest) = text ++ withoutColors rest := by
  unfold Style.paint
  split
  · have numbers : ∀ character ∈ role.code, isColorNumber character = true := by
      cases role <;> simp [Role.code, isColorNumber]
    -- One sequence stands in front of the text, and another one behind it goes back to no colour.
    have reset : withoutColors (Style.escape :: '[' :: (['0'] ++ 'm' :: rest)) = withoutColors rest :=
      withoutColors_sequence (by simp [isColorNumber])
    have painted : withoutColors (Style.escape :: '[' :: (role.code ++ 'm' ::
        (text ++ Style.escape :: '[' :: (['0'] ++ 'm' :: rest)))) = text ++ withoutColors rest := by
      rw [withoutColors_sequence numbers, withoutColors_append plain, reset]
    simpa using painted
  · exact withoutColors_append plain

end Colors

section Layout

variable {text rest : List Char}

/-- A text without spaces, line ends and quotation marks stays as it is between literals. -/
theorem withoutLayout_append
    (plain : ∀ character ∈ text, 32 ≤ character.toNat ∧ character ≠ ' ' ∧ character ≠ '"') :
    withoutLayout .between (text ++ rest) = text ++ withoutLayout .between rest := by
  induction text with
  | nil => rfl
  | cons character more ih =>
    obtain ⟨⟨visible, noSpace, noMark⟩, others⟩ := List.forall_mem_cons.mp plain
    -- A line end lies below the space, and only a quotation mark would lead into a literal.
    have noBreak : character ≠ '\n' := by
      rintro rfl
      exact absurd visible (by decide)
    simp [withoutLayout, Place.next, noSpace, noBreak, noMark, ih others]

/-- An escaped character stays as it is inside a literal, and leaves the literal open. -/
theorem withoutLayout_escape (character : Char) :
    withoutLayout .inside (Json.escape character ++ rest) =
      Json.escape character ++ withoutLayout .inside rest := by
  unfold Json.escape
  -- A backslash protects the mark behind it, and the last arm takes all that need no backslash.
  split
  case h_8 unquoted unescaped _ _ _ _ _ =>
    split
    case isTrue control =>
      obtain ⟨_, highMark, highBackslash⟩ := Json.hexDigit_plain (character.toNat / 16) (by omega)
      obtain ⟨_, lowMark, lowBackslash⟩ := Json.hexDigit_plain (character.toNat % 16) (by omega)
      simp [withoutLayout, Place.next, highMark, highBackslash, lowMark, lowBackslash]
    case isFalse =>
      have noMark : character ≠ '"' := unquoted
      have noBackslash : character ≠ '\\' := unescaped
      simp [withoutLayout, Place.next, noMark, noBackslash]
  all_goals simp [withoutLayout, Place.next]

/-- A quoted string stays as it is, spaces included. -/
theorem withoutLayout_quote (string : String) :
    withoutLayout .between (Json.quote string ++ rest) =
      Json.quote string ++ withoutLayout .between rest := by
  -- Inside the literal the place is kept from each escaped character to the next.
  have inner : ∀ characters : List Char,
      withoutLayout .inside (characters.flatMap Json.escape ++ '"' :: rest) =
        characters.flatMap Json.escape ++ '"' :: withoutLayout .between rest := by
    intro characters
    induction characters with
    | nil => simp [withoutLayout, Place.next]
    | cons character more ih =>
      rw [List.flatMap_cons, List.append_assoc, withoutLayout_escape, ih, List.append_assoc]
  -- The opening mark leads into the literal, and the closing one out of it.
  simp [Json.quote, withoutLayout, Place.next, inner]

/-- Line ends and the spaces behind them are erased between literals. -/
theorem withoutLayout_newline (style : Style) (indent : Nat) :
    withoutLayout .between (style.newline indent ++ rest) = withoutLayout .between rest := by
  -- However far the line is indented, its spaces go one by one.
  have spaces : ∀ count, withoutLayout .between (List.replicate count ' ' ++ rest) =
      withoutLayout .between rest := by
    intro count
    induction count with
    | zero => rfl
    | succ count ih => simpa [List.replicate_succ, withoutLayout] using ih
  unfold Style.newline
  split
  · simpa [withoutLayout] using spaces indent
  · rfl

/-- No token holds layout of its own. -/
theorem withoutLayout_token (token : Json.Token text) :
    withoutLayout .between (text ++ rest) = text ++ withoutLayout .between rest := by
  cases token with
  | null => rfl
  | bool value => cases value <;> rfl
  | number value =>
    exact withoutLayout_append fun character member =>
      Json.isNumberCharacter_plain (value.onlyNumber_text character member)
  | quoted string => exact withoutLayout_quote string

end Layout

end RecordFilter
