import RecordFilter.Proofs.Numeric.Numerals
import RecordFilter.Proofs.Numeric.Shortest

/-! What the reader of numbers finds in the text of a double: a coefficient
and the power of ten it is counted in. -/

namespace RecordFilter

section Digits

variable {text : List Char}

/-- Further digits only add to a number. -/
theorem le_continueDigits (start : Nat) (text : List Char) : start ≤ continueDigits start text := by
  -- The induction is on the digits, each of which makes the number no smaller.
  induction text generalizing start with
  | nil => exact Nat.le_refl _
  | cons digit rest ih =>
    exact Nat.le_trans (show start ≤ 10 * start + digitValue digit by omega) (ih _)

/-- Digits are read on from the number that those in front of them denote. -/
theorem ofDigits_append (front back : List Char) :
    ofDigits (front ++ back) = continueDigits (ofDigits front) back := by
  simp [ofDigits, continueDigits]

/-- A zero behind a number moves it one place up. -/
theorem continueDigits_zeros (start count : Nat) :
    continueDigits start (List.replicate count '0') = start * tenTo count := by
  induction count generalizing start with
  | zero => exact (Nat.mul_one start).symm
  | succ count ih =>
    have moved : continueDigits start (List.replicate (count + 1) '0') =
        continueDigits (10 * start) (List.replicate count '0') := rfl
    rw [moved, ih, tenTo_succ]
    ring

/-- Zeros are digits. -/
theorem zeros_isDigit (count : Nat) :
    ∀ character ∈ List.replicate count '0', character.isDigit = true := by
  intro character member
  rw [List.eq_of_mem_replicate member]
  rfl

/-- Zeros in front of digits do not count. -/
theorem ofDigits_zeros_append (count : Nat) (text : List Char) :
    ofDigits (List.replicate count '0' ++ text) = ofDigits text := by
  rw [ofDigits_append, ofDigits, continueDigits_zeros, Nat.zero_mul]
  rfl

/-- What is left out when the zeros at the end are dropped is zeros. -/
theorem exists_zeros (text : List Char) :
    ∃ count, text = (text.reverse.dropWhile (· == '0')).reverse ++ List.replicate count '0' := by
  refine ⟨(text.reverse.takeWhile (· == '0')).length, ?_⟩
  -- The zeros are those that the reverse begins with.
  have zeros : text.reverse.takeWhile (· == '0') =
      List.replicate (text.reverse.takeWhile (· == '0')).length '0' := by
    refine List.eq_replicate_of_mem fun character inside => ?_
    simpa using List.mem_takeWhile_imp inside
  have parts := congrArg List.reverse (List.takeWhile_append_dropWhile (p := (· == '0')) (l := text.reverse))
  rw [List.reverse_append, List.reverse_reverse, zeros, List.reverse_replicate] at parts
  exact parts.symm

end Digits

namespace Double

/-- The digits a double is written with: those of its shortest decimal
without the zeros at their end. -/
def shownDigits (value : Double) : List Char :=
  ((digits value.shortest.coefficient).reverse.dropWhile (· == '0')).reverse

/-- The power of ten that the first of these digits counts. -/
def firstPlace (value : Double) : Int :=
  value.shortest.exponent + (digits value.shortest.coefficient).length - 1

/-- The power of ten that the last of these digits counts. -/
def lastPlace (value : Double) : Int :=
  value.firstPlace + 1 - value.shownDigits.length

/-- The number that all digits in the text of a double denote, and
the power of ten of the last one. -/
def shown (value : Double) : Nat × Int :=
  if value.isZero then (0, -1)
  else if 0 ≤ value.lastPlace ∧ value.firstPlace ≤ 15 then
    -- A whole number that is not too large is written out, with one more zero behind a point.
    (ofDigits value.shownDigits * tenTo (value.lastPlace + 1).toNat, -1)
  else (ofDigits value.shownDigits, value.lastPlace)

section Shown

variable {value : Double}

/-- Nothing but digits is shown. -/
theorem shownDigits_isDigit (value : Double) :
    ∀ character ∈ value.shownDigits, character.isDigit = true := by
  intro character member
  have inside := (List.dropWhile_sublist _).subset (List.mem_reverse.mp member)
  exact digits_isDigit _ character (List.mem_reverse.mp inside)

/-- The shown digits denote the shortest decimal, counted from the place of the last of them. -/
theorem exists_dropped (value : Double) :
    ∃ count, value.shortest.coefficient = ofDigits value.shownDigits * tenTo count ∧
      value.lastPlace = value.shortest.exponent + count ∧
      (digits value.shortest.coefficient).length = value.shownDigits.length + count := by
  obtain ⟨count, parts⟩ := exists_zeros (digits value.shortest.coefficient)
  have length := congrArg List.length parts
  rw [List.length_append, List.length_replicate] at length
  -- The zeros that were dropped are a power of ten, which the last place goes up by.
  have denoted := congrArg ofDigits parts
  rw [ofDigits_digits, ofDigits_append, continueDigits_zeros] at denoted
  refine ⟨count, denoted, ?_, length⟩
  unfold lastPlace firstPlace shownDigits
  omega

/-- Of a finite double other than zero some digit is shown, the first is no zero, and they are at
most seventeen, unless they are a one behind which zeros were dropped. -/
theorem shownDigits_spec (finite : value.IsFinite) (nonzero : value.isZero = false) :
    (∃ first more, value.shownDigits = first :: more ∧ first ≠ '0') ∧
      ofDigits value.shownDigits ≤ tenTo 17 ∧
      ofDigits value.shownDigits < tenTo value.shownDigits.length := by
  obtain ⟨candidate, rounds⟩ := shortest_spec finite nonzero
  have inRange := Decimal.toDouble_inRange (rounds.symm ▸ finite) (rounds.symm ▸ nonzero)
  obtain ⟨count, denoted, _, length⟩ := exists_dropped value
  refine ⟨?_, ?_, ?_⟩
  · obtain ⟨zeros, parts⟩ := exists_zeros (digits value.shortest.coefficient)
    obtain ⟨first, more, all, leading⟩ := digits_leading value.shortest.coefficient
    -- The first digit is kept, since the number is not zero.
    obtain ⟨kept, others, shown⟩ := List.exists_cons_of_ne_nil (DoubleLayout.trimmed_ne_nil inRange.1)
    rw [shown, all, List.cons_append] at parts
    obtain ⟨rfl, _⟩ := List.cons.inj parts
    exact ⟨first, others, shown, fun zero => inRange.1 (leading zero).1⟩
  · -- Dropping zeros makes the number no larger.
    have bound := coefficient_le (units_pos nonzero) candidate
    rw [denoted] at bound
    exact Nat.le_trans (Nat.le_mul_of_pos_right _ (tenTo_pos count)) bound
  · -- The zeros that were dropped count on either side, so they cancel.
    have bound := (digits_bounds value.shortest.coefficient).2.1
    rw [length, denoted, tenTo_add] at bound
    exact Nat.lt_of_mul_lt_mul_right bound

end Shown

end Double

namespace NumberLiteral

variable {coefficient : Nat} {places : Int} {whole text : List Char}

/-- Digits are collected to the last one as long as what they denote stays in range. -/
theorem collect_eq {start : Nat} (inRange : continueDigits start text ≤ greatestCoefficient) :
    collect start text = (continueDigits start text, []) := by
  induction text generalizing start with
  | nil => rfl
  | cons digit rest ih =>
    -- What is read so far is no more than all digits denote, so none of them ends the coefficient.
    have behind : continueDigits (10 * start + digitValue digit) rest ≤ greatestCoefficient := inRange
    have next := Nat.le_trans (le_continueDigits _ rest) behind
    simp only [collect]
    rw [if_pos next, ih behind]
    rfl

/-- A literal whose digits are in range counts all of them, from the place of the last one. -/
theorem scaled_eq {literal : NumberLiteral}
    (inRange : ofDigits (literal.whole ++ literal.fraction.getD []) ≤ greatestCoefficient) :
    literal.scaled = (ofDigits (literal.whole ++ literal.fraction.getD []),
      -((literal.fraction.getD []).length : Int)) := by
  rw [ofDigits_append] at inRange ⊢
  -- The whole digits alone denote no more than all of them.
  have whole := Nat.le_trans (le_continueDigits _ _) inRange
  simp only [scaled]
  -- Nothing is dropped of the whole digits, and so nothing lost of the fraction behind them.
  rw [collect_eq whole]
  simp only
  rw [← ofDigits, collect_eq inRange]
  simp

/-- A text that is read as no integer but a coefficient and a power of ten, whatever its sign. -/
def Shows (coefficient : Nat) (places : Int) (text : List Char) : Prop :=
  ∀ negative, ∃ literal : NumberLiteral, literal.Spelled (minus negative ++ text) ∧
    literal.negative = negative ∧ literal.integer? = none ∧
    literal.absolute? = scale? coefficient places

/-- Digits around a point show what they denote together. -/
theorem shows_point {fraction : List Char}
    (all : ∀ character ∈ whole ++ fraction, character.isDigit = true)
    (leading : Written.isWhole whole = true) (some_ : fraction ≠ [])
    (denoted : ofDigits (whole ++ fraction) = coefficient) (inRange : coefficient ≤ greatestCoefficient)
    (counted : places = -(fraction.length : Int)) :
    Shows coefficient places (whole ++ '.' :: fraction) := by
  intro negative
  refine ⟨⟨negative, whole, some fraction, none⟩, ?_, rfl, rfl, ?_⟩
  · have spelled : NumberLiteral.Spelled ⟨negative, whole, some fraction, none⟩
        (minus negative ++ whole ++ ('.' :: fraction) ++ []) :=
      .intro (fun character inside => all character (List.mem_append_left _ inside)) leading
        (.present some_ fun character inside => all character (List.mem_append_right _ inside)) .absent
    simpa using spelled
  · -- Without an exponent the digits are counted from the last one of the fraction.
    have scaled : (NumberLiteral.mk negative whole (some fraction) none).scaled =
        (coefficient, places) := by
      rw [scaled_eq (by simpa [denoted] using inRange)]
      simp [denoted, counted]
    simp only [absolute?, scaled]

/-- The digits of a mantissa behind the first are its fraction,
which is absent if there are none. -/
theorem exists_fraction (first : Char) {more : List Char}
    (all : ∀ character ∈ more, character.isDigit = true) :
    ∃ fraction fractionText, FractionSpelled fraction fractionText ∧ fraction.getD [] = more ∧
      DoubleLayout.mantissa (first :: more) = first :: fractionText := by
  cases more with
  | nil => exact ⟨none, [], .absent, rfl, rfl⟩
  | cons second others => exact ⟨some (second :: others), _, .present (by simp) all, rfl, rfl⟩

/-- Digits that start with another one than a zero may stand in front of a point. -/
theorem isWhole_cons {first : Char} (leading : first ≠ '0') (more : List Char) :
    Written.isWhole (first :: more) = true := by
  unfold Written.isWhole
  -- Of the three forms only the one for several digits looks at the first.
  split
  · contradiction
  · rename_i zero
    exact absurd (List.cons.inj zero).1 leading
  · rename_i same
    obtain ⟨rfl, _⟩ := List.cons.inj same
    simpa using leading

/-- A mantissa and an exponent show what the digits denote, moved by the exponent. -/
theorem shows_exponent {first : Char} {more : List Char} {exponent : Int}
    (all : ∀ character ∈ first :: more, character.isDigit = true) (leading : first ≠ '0')
    (denoted : ofDigits (first :: more) = coefficient) (inRange : coefficient ≤ greatestCoefficient)
    (small : exponent.natAbs ≤ greatestExponent) (counted : places = exponent - more.length) :
    Shows coefficient places (documentLayout.scientific (first :: more) exponent) := by
  intro negative
  obtain ⟨firstDigit, others⟩ := List.forall_mem_cons.mp all
  obtain ⟨fraction, fractionText, fractional, behind, text⟩ := exists_fraction first others
  obtain ⟨place, furtherPlaces, parts, _⟩ := digits_leading exponent.natAbs
  have some_ : digits exponent.natAbs ≠ [] := by simp [parts]
  refine ⟨⟨negative, [first], fraction, some (decide (exponent < 0), digits exponent.natAbs)⟩,
    ?_, rfl, by cases fraction <;> rfl, ?_⟩
  · -- The sign of the exponent is always written.
    have exponential : ExponentSpelled (some (decide (exponent < 0), digits exponent.natAbs))
        ('e' :: ((if exponent < 0 then ['-'] else ['+']) ++ digits exponent.natAbs)) := by
      by_cases below : exponent < 0
      · simpa [below] using ExponentSpelled.present (.inl rfl) .minus some_ (digits_isDigit _)
      · simpa [below] using ExponentSpelled.present (.inl rfl) .plus some_ (digits_isDigit _)
    have spelled : NumberLiteral.Spelled
        ⟨negative, [first], fraction, some (decide (exponent < 0), digits exponent.natAbs)⟩
        (minus negative ++ [first] ++ fractionText ++
          'e' :: ((if exponent < 0 then ['-'] else ['+']) ++ digits exponent.natAbs)) :=
      .intro (by simpa using firstDigit) (isWhole_cons leading []) fractional exponential
    simpa [DoubleLayout.scientific, text, documentLayout] using spelled
  · -- The exponent is that of the first digit, and each of the others is one place further down.
    have scaled : (NumberLiteral.mk negative [first] fraction
        (some (decide (exponent < 0), digits exponent.natAbs))).scaled =
        (coefficient, -(more.length : Int)) := by
      rw [scaled_eq (by simpa [behind, denoted] using inRange)]
      simp [behind, denoted]
    simp only [absolute?, scaled, ofDigits_digits, if_neg (Nat.not_lt.mpr small), decide_eq_true_eq]
    congr 1
    split <;> omega

/-- Digits behind a point, with zeros between, show what they denote. -/
theorem shows_behind {kept : List Char} {point : Int}
    (all : ∀ character ∈ kept, character.isDigit = true) (some_ : kept ≠ [])
    (denoted : ofDigits kept = coefficient) (inRange : coefficient ≤ greatestCoefficient)
    (front : point ≤ 0) (counted : places = point - kept.length) :
    Shows coefficient places (documentLayout.positional kept point) := by
  have shows : Shows coefficient places
      (['0'] ++ '.' :: (List.replicate (-point).toNat '0' ++ kept)) := by
    refine shows_point ?_ rfl (by simp [some_]) ?_ inRange ?_
    · rw [List.forall_mem_append, List.forall_mem_append]
      exact ⟨by simp, zeros_isDigit _, all⟩
    · -- The zero in front of the point counts as little as those behind it.
      have joined : ['0'] ++ (List.replicate (-point).toNat '0' ++ kept) =
          List.replicate ((-point).toNat + 1) '0' ++ kept := rfl
      rw [joined, ofDigits_zeros_append, denoted]
    · rw [List.length_append, List.length_replicate]
      omega
  simpa [DoubleLayout.positional, front] using shows

/-- A point among digits leaves them what they denote. -/
theorem shows_among {kept : List Char} {point : Int}
    (all : ∀ character ∈ kept, character.isDigit = true)
    (leading : ∃ first more, kept = first :: more ∧ first ≠ '0')
    (denoted : ofDigits kept = coefficient) (inRange : coefficient ≤ greatestCoefficient)
    (behind : 0 < point) (inside : point < kept.length) (counted : places = point - kept.length) :
    Shows coefficient places (documentLayout.positional kept point) := by
  obtain ⟨first, more, parts, notZero⟩ := leading
  have front : kept.take point.toNat = first :: more.take (point.toNat - 1) := by
    rw [parts]
    exact List.take_cons (by omega)
  unfold DoubleLayout.positional
  simp only
  -- The digits in front of the point and behind it are taken together again.
  rw [if_neg (by omega), if_pos inside]
  refine shows_point ?_ (front ▸ isWhole_cons notZero _) ?_ ?_ inRange ?_
  · rwa [List.take_append_drop]
  · -- Behind the point there is a digit, since it stands inside of them.
    intro none_
    have short := List.drop_eq_nil_iff.mp none_
    omega
  · rw [List.take_append_drop, denoted]
  · rw [List.length_drop]
    omega

/-- A number written out to its ones shows one more digit behind them, a zero. -/
theorem shows_whole {kept : List Char} {point : Int}
    (all : ∀ character ∈ kept, character.isDigit = true)
    (leading : ∃ first more, kept = first :: more ∧ first ≠ '0')
    (denoted : ofDigits kept * tenTo (point - kept.length + 1).toNat = coefficient)
    (inRange : coefficient ≤ greatestCoefficient) (outside : (kept.length : Int) ≤ point) :
    Shows coefficient (-1) (documentLayout.positional kept point) := by
  obtain ⟨first, more, parts, notZero⟩ := leading
  have some_ : 0 < kept.length := by simp [parts]
  unfold DoubleLayout.positional
  simp only
  rw [if_neg (by omega), if_neg (by omega)]
  -- The zero behind the point is a digit like the others, and counts one place.
  refine shows_point ?_ ?_ (by simp) ?_ inRange rfl
  · rw [List.forall_mem_append, List.forall_mem_append]
    exact ⟨⟨all, zeros_isDigit _⟩, by simp⟩
  · rw [parts]
    exact isWhole_cons notZero _
  · -- The zeros in front of the point and the one behind it move the digits alike.
    have zeros : List.replicate (point - kept.length).toNat '0' ++ ['0'] =
        List.replicate (point - kept.length + 1).toNat '0' := by
      rw [show (point - kept.length + 1).toNat = (point - kept.length).toNat + 1 by omega,
        List.replicate_succ']
    rw [List.append_assoc, zeros, ofDigits_append, continueDigits_zeros, denoted]

end NumberLiteral

namespace Double

variable {value : Double}

/-- The text of a double other than zero is its sign and its shown
digits in one of the two layouts. -/
theorem write_eq (nonzero : value.isZero = false) :
    documentLayout.write value = NumberLiteral.minus value.negative ++
      if -5 ≤ value.firstPlace ∧ value.firstPlace ≤ 15 then
        documentLayout.positional value.shownDigits (value.firstPlace + 1)
      else documentLayout.scientific value.shownDigits value.firstPlace := by
  simp only [DoubleLayout.write, nonzero, Bool.false_eq_true, if_false, Bool.and_eq_true,
    decide_eq_true_eq]
  rfl

/-- The digits of a double other than zero, with the zero behind a whole
number, fit into a coefficient. -/
theorem tenTo_le_greatestCoefficient : tenTo 17 ≤ NumberLiteral.greatestCoefficient := by
  decide

/-- The last digit does not stand in front of the first. -/
theorem lastPlace_le_firstPlace (finite : value.IsFinite) (nonzero : value.isZero = false) :
    value.lastPlace ≤ value.firstPlace := by
  obtain ⟨⟨first, more, parts, _⟩, _⟩ := shownDigits_spec finite nonzero
  rw [lastPlace, parts, List.length_cons]
  omega

/-- A double that is written positionally shows its digits, and one more if it is a whole number. -/
theorem shows_positional (finite : value.IsFinite) (nonzero : value.isZero = false)
    (high : value.firstPlace ≤ 15) :
    NumberLiteral.Shows value.shown.1 value.shown.2
      (documentLayout.positional value.shownDigits (value.firstPlace + 1)) := by
  obtain ⟨leading, inRange, short⟩ := shownDigits_spec finite nonzero
  have last : value.lastPlace = value.firstPlace + 1 - value.shownDigits.length := rfl
  simp only [shown, nonzero, Bool.false_eq_true, if_false]
  have fits := Nat.le_trans inRange tenTo_le_greatestCoefficient
  -- The point stands in front of the last digit, or behind all of them.
  by_cases inside : value.firstPlace + 1 < value.shownDigits.length
  · rw [if_neg (by omega)]
    -- In front of all digits there are zeros, and among the digits there are none.
    by_cases front : value.firstPlace + 1 ≤ 0
    · obtain ⟨first, more, parts, _⟩ := leading
      exact NumberLiteral.shows_behind value.shownDigits_isDigit (by simp [parts]) rfl fits front last
    · apply NumberLiteral.shows_among value.shownDigits_isDigit leading rfl fits _ inside last
      omega
  · rw [if_pos (by omega)]
    refine NumberLiteral.shows_whole value.shownDigits_isDigit leading rfl ?_ (by omega)
    -- The digits and the zeros behind them are no more than seventeen.
    refine Nat.le_trans (Nat.le_of_lt ?_) tenTo_le_greatestCoefficient
    calc ofDigits value.shownDigits * tenTo (value.lastPlace + 1).toNat
      _ < tenTo value.shownDigits.length * tenTo (value.lastPlace + 1).toNat :=
        Nat.mul_lt_mul_of_pos_right short (tenTo_pos _)
      _ = tenTo (value.shownDigits.length + (value.lastPlace + 1).toNat) := (tenTo_add ..).symm
      _ ≤ tenTo 17 := tenTo_mono (by omega)

/-- A double that is written with an exponent shows its digits and nothing more. -/
theorem shows_scientific (finite : value.IsFinite) (nonzero : value.isZero = false)
    (far : ¬(-5 ≤ value.firstPlace ∧ value.firstPlace ≤ 15)) :
    NumberLiteral.Shows value.shown.1 value.shown.2
      (documentLayout.scientific value.shownDigits value.firstPlace) := by
  obtain ⟨⟨first, more, parts, notZero⟩, inRange, _⟩ := shownDigits_spec finite nonzero
  obtain ⟨_, rounds⟩ := shortest_spec finite nonzero
  obtain ⟨_, low, high⟩ := Decimal.toDouble_inRange (rounds.symm ▸ finite) (rounds.symm ▸ nonzero)
  have ordered := lastPlace_le_firstPlace finite nonzero
  -- The exponent is far from those that are not evaluated.
  have few : value.firstPlace.natAbs ≤ 401 := by
    unfold firstPlace
    omega
  have small := Nat.le_trans few (show 401 ≤ NumberLiteral.greatestExponent by decide)
  have last : value.lastPlace = value.firstPlace + 1 - value.shownDigits.length := rfl
  have all := value.shownDigits_isDigit
  simp only [shown, nonzero, Bool.false_eq_true, if_false]
  rw [if_neg (by omega)]
  rw [parts] at all inRange last ⊢
  refine NumberLiteral.shows_exponent all notZero rfl
    (Nat.le_trans inRange tenTo_le_greatestCoefficient) small ?_
  rw [last, List.length_cons]
  omega

/-- The text of a finite double shows its coefficient and the power of ten of its last digit. -/
theorem exists_shows (finite : value.IsFinite) :
    ∃ text, documentLayout.write value = NumberLiteral.minus value.negative ++ text ∧
      NumberLiteral.Shows value.shown.1 value.shown.2 text := by
  cases nonzero : value.isZero with
  | true =>
    -- Zero has a text of its own, whatever its sign.
    refine ⟨['0'] ++ '.' :: ['0'], ?_, ?_⟩
    · simp [DoubleLayout.write, nonzero, NumberLiteral.minus, documentLayout]
    · simp only [shown, nonzero, if_true]
      exact NumberLiteral.shows_point (by simp) rfl (by simp) rfl (by decide) rfl
  | false =>
    refine ⟨_, write_eq nonzero, ?_⟩
    -- The layout goes by the place of the first digit.
    by_cases near : -5 ≤ value.firstPlace ∧ value.firstPlace ≤ 15
    · rw [if_pos near]
      exact shows_positional finite nonzero near.2
    · rw [if_neg near]
      exact shows_scientific finite nonzero near

end Double

end RecordFilter
