import RecordFilter.Numeric.Digits
import RecordFilter.Numeric.Power

/-! The digits of a number are digits, denote the number, and have no leading zero. -/

namespace RecordFilter

/-- Every number below ten has a digit of its own. -/
theorem digitChar_small {value : Nat} (small : value < 10) :
    (digitChar value).isDigit = true ∧ digitValue (digitChar value) = value ∧
      (digitChar value = '0' ↔ value = 0) := by
  -- Ten characters, each checked against what is asked of it.
  rcases value with _ | _ | _ | _ | _ | _ | _ | _ | _ | _ | value
  all_goals first | decide | omega

/-- The digit of a number is that of its last place. -/
theorem digitChar_mod (value : Nat) : digitChar value = digitChar (value % 10) := by
  simp [digitChar]

/-- A digit is written for every number, by its last place. -/
theorem digitChar_isDigit (value : Nat) : (digitChar value).isDigit = true := by
  rw [digitChar_mod]
  exact (digitChar_small (Nat.mod_lt value (by decide))).1

/-- The digit that is written denotes the last place. -/
theorem digitValue_digitChar (value : Nat) : digitValue (digitChar value) = value % 10 := by
  rw [digitChar_mod]
  exact (digitChar_small (Nat.mod_lt value (by decide))).2.1

/-- Nothing but digits stands in the digits of a number. -/
theorem digits_isDigit (value : Nat) : ∀ character ∈ digits value, character.isDigit = true := by
  induction value using digits.induct with
  | case1 value small =>
    rw [digits, if_pos small]
    simpa using digitChar_isDigit value
  | case2 value large ih =>
    rw [digits, if_neg large]
    intro character member
    -- A digit is one of the places above, or the last one.
    rcases List.mem_append.mp member with above | last
    · exact ih character above
    · rw [List.mem_singleton.mp last]
      exact digitChar_isDigit value

/-- Reading the digits of a number gives the number. -/
theorem ofDigits_digits (value : Nat) : ofDigits (digits value) = value := by
  induction value using digits.induct with
  | case1 value small =>
    rw [digits, if_pos small]
    simp [ofDigits, continueDigits, digitValue_digitChar, Nat.mod_eq_of_lt small]
  | case2 value large ih =>
    -- The places above are read first, and the last one is added to ten times their value.
    have above : (digits (value / 10)).foldl (fun total digit => 10 * total + digitValue digit) 0 =
        value / 10 := ih
    rw [digits, if_neg large]
    simp only [ofDigits, continueDigits, List.foldl_append, List.foldl_cons, List.foldl_nil, above,
      digitValue_digitChar]
    omega

/-- The digits of a number start with a zero only for zero itself. -/
theorem digits_leading (value : Nat) :
    ∃ first more, digits value = first :: more ∧ (first = '0' → value = 0 ∧ more = []) := by
  induction value using digits.induct with
  | case1 value small =>
    rw [digits, if_pos small]
    exact ⟨_, [], rfl, fun zero => ⟨(digitChar_small small).2.2.mp zero, rfl⟩⟩
  | case2 value large ih =>
    -- The first digit is that of the places above, which are not zero in a number of two digits.
    obtain ⟨first, more, above, leading⟩ := ih
    rw [digits, if_neg large, above]
    refine ⟨first, more ++ [digitChar value], rfl, fun zero => ?_⟩
    have := (leading zero).1
    omega

/-- A digit is written for what it denotes. -/
theorem digitChar_digitValue {digit : Char} (isDigit : digit.isDigit = true) :
    digitChar (digitValue digit) = digit := by
  have bounds : 48 ≤ digit.toNat ∧ digit.toNat ≤ 57 := by
    simpa [Char.isDigit, UInt32.le_iff_toNat_le] using isDigit
  -- Behind the code of the zero the digits come in their order.
  have code : 48 + (digit.toNat - 48) % 10 = digit.toNat := by omega
  rw [digitChar, digitValue, code, Char.ofNat_toNat]

/-- What a digit denotes is less than ten. -/
theorem digitValue_lt {digit : Char} (isDigit : digit.isDigit = true) : digitValue digit < 10 := by
  rw [← digitChar_digitValue isDigit, digitValue_digitChar]
  exact Nat.mod_lt _ (by decide)

/-- Digits that a number is continued with are written behind its own, unless it is zero. -/
theorem digits_continueDigits {start : Nat} {text : List Char} (positive : 0 < start)
    (all : ∀ character ∈ text, character.isDigit = true) :
    digits (continueDigits start text) = digits start ++ text := by
  induction text generalizing start with
  | nil => simp [continueDigits]
  | cons digit rest ih =>
    have isDigit := all digit List.mem_cons_self
    have small := digitValue_lt isDigit
    have later : ∀ character ∈ rest, character.isDigit = true := fun character inside =>
      all character (List.mem_cons_of_mem _ inside)
    -- The next digit is the last place of a number whose other places are those at the start.
    have next : digits (10 * start + digitValue digit) = digits start ++ [digit] := by
      have above : (10 * start + digitValue digit) / 10 = start := by omega
      have place : (10 * start + digitValue digit) % 10 = digitValue digit := by omega
      rw [digits, if_neg (by omega), above, digitChar_mod, place, digitChar_digitValue isDigit]
    calc digits (continueDigits start (digit :: rest))
        = digits (continueDigits (10 * start + digitValue digit) rest) := rfl
      _ = digits (10 * start + digitValue digit) ++ rest := ih (by omega) later
      _ = digits start ++ digit :: rest := by rw [next, List.append_assoc, List.singleton_append]

/-- Digits without a zero in front of others are those of the number that they denote. -/
theorem digits_ofDigits {first : Char} {more : List Char}
    (all : ∀ character ∈ first :: more, character.isDigit = true)
    (leading : first = '0' → more = []) : digits (ofDigits (first :: more)) = first :: more := by
  have isDigit := all first List.mem_cons_self
  have small := digitValue_lt isDigit
  have alone : digits (digitValue first) = [first] := by
    rw [digits, if_pos small, digitChar_digitValue isDigit]
  have started : ofDigits (first :: more) = continueDigits (digitValue first) more := by
    simp [ofDigits, continueDigits]
  rw [started]
  by_cases zero : first = '0'
  · rw [leading zero]
    exact alone
  · -- A first digit that is no zero denotes more than nothing, so the others go on behind it.
    have positive : 0 < digitValue first := by
      refine Nat.pos_of_ne_zero fun none_ => zero ?_
      rw [← digitChar_digitValue isDigit]
      exact (digitChar_small small).2.2.mpr none_
    have later : ∀ character ∈ more, character.isDigit = true := fun character inside =>
      all character (List.mem_cons_of_mem _ inside)
    rw [digits_continueDigits positive later, alone, List.singleton_append]

/-- A number below a power of ten has no more digits than that has zeros. -/
theorem length_digits_le {value places : Nat} (some_ : 0 < places) (small : value < tenTo places) :
    (digits value).length ≤ places := by
  induction value using digits.induct generalizing places with
  | case1 value below =>
    rw [digits, if_pos below]
    exact some_
  | case2 value above ih =>
    rw [digits, if_neg above, List.length_append, List.length_singleton]
    -- There is a place above the last one, since the number is not below ten.
    obtain ⟨more, rfl⟩ : ∃ more, places = more + 1 := ⟨places - 1, by omega⟩
    change value < tenTo more * 10 at small
    have enough : 0 < more := by
      rcases Nat.eq_zero_or_pos more with rfl | positive
      · change value < 10 at small
        omega
      · exact positive
    have := ih enough (by omega)
    omega

end RecordFilter
