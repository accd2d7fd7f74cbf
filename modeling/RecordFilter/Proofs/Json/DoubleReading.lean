import RecordFilter.Proofs.Json.DoubleText

/-! When the reader of numbers finds a double again behind its text,
although it rounds at every step. -/

namespace RecordFilter

namespace NumberLiteral

/-- Of exact numbers the reader takes the double nearest to what is written. -/
theorem scale?_of_exact {coefficient : Nat} {exponent : Int} (exact : Double.Exact coefficient)
    (small : exponent.natAbs ≤ 22) :
    scale? coefficient exponent = some (Double.ofQuotient false
      (coefficient * tenTo exponent.toNat) (tenTo (-exponent).toNat)) := by
  have power : Double.Exact (tenTo exponent.natAbs) := Double.exact_tenTo small
  have near : exponent.natAbs ≤ 308 := by omega
  unfold scale?
  simp only
  -- A single power of ten is enough, so the one division or product is the only step that rounds.
  split
  · rename_i negative
    have up : exponent.toNat = 0 := by omega
    have down : (-exponent).toNat = exponent.natAbs := by omega
    rw [scaleDown, if_pos near, scale, exact.div_eq power, up, down, tenTo_zero, Nat.mul_one]
  · rename_i positive
    have up : exponent.toNat = exponent.natAbs := by omega
    have down : (-exponent).toNat = 0 := by omega
    have finite := exact.isFinite_mul power
    rw [scaleUp?, if_pos near, scale]
    simp only [if_pos finite]
    rw [exact.mul_eq power, up, down, tenTo_zero]

end NumberLiteral

namespace Double

/-- What the reader makes of the digits of a double: the absolute value
of the double, or another number. -/
def reread? (value : Double) : Option Double :=
  NumberLiteral.scale? value.shown.1 value.shown.2

/-- A double whose digits are read as its absolute value. -/
def Restored (value : Double) : Prop :=
  value.reread?.map Double.magnitude = some value.magnitude

instance (value : Double) : Decidable value.Restored :=
  inferInstanceAs (Decidable (_ = _))

/-- A double other than zero with few digits, none of them far from the point, that is not a whole
number of sixteen digits. -/
structure Moderate (value : Double) : Prop where
  nonzero : value.isZero = false
  digits : ofDigits value.shownDigits ≤ 2 ^ 53
  notLarge : value.lastPlace ≤ 22
  notSmall : -22 ≤ value.lastPlace
  notSixteen : value.lastPlace < 0 ∨ value.firstPlace ≠ 15

instance (value : Double) : Decidable value.Moderate :=
  decidable_of_iff (value.isZero = false ∧ ofDigits value.shownDigits ≤ 2 ^ 53 ∧
      value.lastPlace ≤ 22 ∧ -22 ≤ value.lastPlace ∧ (value.lastPlace < 0 ∨ value.firstPlace ≠ 15))
    ⟨fun ⟨nonzero, digits, notLarge, notSmall, notSixteen⟩ =>
      ⟨nonzero, digits, notLarge, notSmall, notSixteen⟩,
      fun moderate => ⟨moderate.nonzero, moderate.digits, moderate.notLarge, moderate.notSmall,
        moderate.notSixteen⟩⟩

variable {value : Double}

/-- A double is the one nearest to the decimal that its shown digits denote. -/
theorem magnitude_eq_shown (finite : value.IsFinite) (nonzero : value.isZero = false) :
    value.magnitude = (ofQuotient false (ofDigits value.shownDigits * tenTo value.lastPlace.toNat)
      (tenTo (-value.lastPlace).toNat)).magnitude := by
  obtain ⟨_, rounds⟩ := shortest_spec finite nonzero
  obtain ⟨some_, low, high⟩ :=
    Decimal.toDouble_inRange (rounds.symm ▸ finite) (rounds.symm ▸ nonzero)
  have computed := Decimal.toDouble_of_inRange some_ low high
  rw [rounds] at computed
  obtain ⟨count, denoted, moved, _⟩ := exists_dropped value
  -- The zeros that were dropped from the digits are in the place of the last one instead.
  have same : ofQuotient value.shortest.negative
      (ofDigits value.shownDigits * tenTo value.lastPlace.toNat) (tenTo (-value.lastPlace).toNat) =
        value := by
    rw [moved, ← ofQuotient_moved, ← denoted, ← computed]
  rw [magnitude_ofQuotient, ← magnitude_ofQuotient value.shortest.negative, same]

/-- A zero is read back, with its sign. -/
theorem restored_of_isZero (zero : value.isZero = true) : value.Restored := by
  have none_ : value.magnitude = 0 := by simpa [isZero] using zero
  have read := NumberLiteral.scale?_of_exact (exact_of_le (Nat.zero_le _))
    (show (-1 : Int).natAbs ≤ 22 by decide)
  have nearest : (ofQuotient false (0 * tenTo (-1 : Int).toNat)
      (tenTo (-(-1) : Int).toNat)).magnitude = 0 := by
    decide +kernel
  simp only [Restored, reread?, shown, zero, if_true, none_, read, Option.map_some, nearest]

/-- A whole number that is written out is read as it stands in the text, and then divided by ten. -/
theorem exact_writtenOut {coefficient length places : Nat} (short : coefficient < tenTo length)
    (few : length + places ≤ 15) : Exact (coefficient * tenTo (places + 1)) := by
  have bound : coefficient * tenTo places < tenTo 15 := by
    calc coefficient * tenTo places
      _ < tenTo length * tenTo places := Nat.mul_lt_mul_of_pos_right short (tenTo_pos _)
      _ = tenTo (length + places) := (tenTo_add ..).symm
      _ ≤ tenTo 15 := tenTo_mono few
  rw [show tenTo 15 = 1000000000000000 from rfl] at bound
  -- Sixteen digits may be more than fifty-three binary ones, but then the last of these is a zero.
  have half : coefficient * tenTo places * 5 ≤ 2 ^ 53 := by omega
  have twice : coefficient * tenTo (places + 1) = coefficient * tenTo places * 5 * 2 := by
    rw [tenTo_succ]
    ring
  rw [twice]
  exact exact_two_mul half

/-- A moderate double is read back: the reader's steps are all exact but the last. -/
theorem restored_of_moderate (finite : value.IsFinite) (moderate : value.Moderate) :
    value.Restored := by
  have nearest := magnitude_eq_shown finite moderate.nonzero
  obtain ⟨_, _, short⟩ := shownDigits_spec finite moderate.nonzero
  obtain ⟨nonzero, few, notLarge, notSmall, notSixteen⟩ := moderate
  have last : value.lastPlace = value.firstPlace + 1 - value.shownDigits.length := rfl
  unfold Restored reread? shown
  generalize value.shownDigits = digits, value.firstPlace = first, value.lastPlace = place at *
  simp only [nonzero, Bool.false_eq_true, if_false]
  split
  · rename_i whole
    obtain ⟨up, rfl⟩ := Int.eq_ofNat_of_zero_le whole.1
    have exact : Exact (ofDigits digits * tenTo (up + 1)) := exact_writtenOut short (by omega)
    have read := NumberLiteral.scale?_of_exact exact (show (-1 : Int).natAbs ≤ 22 by decide)
    -- The zero that was added behind the point is divided away again.
    have moved := ofQuotient_moved false (ofDigits digits) (up + 1) (-1)
    rw [show (-1 : Int) + (up + 1 : Nat) = up by omega] at moved
    rw [show ((up : Int) + 1).toNat = up + 1 by omega, read, moved, nearest, Option.map_some]
  · rw [NumberLiteral.scale?_of_exact (exact_of_le few) (by omega), nearest, Option.map_some]

/-- The number that the text of a double is read as, unless it is out of range. -/
def rereadNumber? (value : Double) : Option Number :=
  value.reread?.bind fun read => Number.ofDouble? (read.withSign value.negative)

/-- The text of a finite double spells a literal of the number that
the reader makes of its digits. -/
theorem exists_literal (finite : value.IsFinite) :
    ∃ literal : NumberLiteral, literal.Spelled (documentLayout.write value) ∧
      literal.value? = value.rereadNumber? := by
  obtain ⟨text, parts, shows⟩ := exists_shows finite
  obtain ⟨literal, spelled, sign, noInteger, absolute⟩ := shows value.negative
  refine ⟨literal, parts ▸ spelled, ?_⟩
  rw [NumberLiteral.value?, noInteger, Option.none_or, NumberLiteral.double?, absolute, sign]
  rfl

/-- A double is restored exactly when its text is read as an equal number. -/
theorem restored_iff (finite : value.IsFinite) :
    value.Restored ↔
      ∃ number, value.rereadNumber? = some number ∧ (Number.double value finite).same number = true := by
  simp only [Restored, rereadNumber?, Option.map_eq_some_iff, Option.bind_eq_some_iff]
  constructor
  · rintro ⟨read, reads, same⟩
    -- With its sign the number is the double itself.
    have signed : read.withSign value.negative = value := by
      obtain ⟨negative, magnitude, bounded⟩ := value
      obtain rfl : read.magnitude = magnitude := same
      rfl
    refine ⟨.double value finite, ⟨read, reads, ?_⟩, by simp [Number.same, sameValue]⟩
    rw [signed]
    exact dif_pos finite
  · rintro ⟨number, ⟨read, reads, kept⟩, same⟩
    unfold Number.ofDouble? at kept
    split at kept
    · obtain rfl := Option.some.inj kept
      -- Equal values of one sign have one magnitude.
      have keys : value.key = (read.withSign value.negative).key := by
        simpa [Number.same, sameValue] using same
      refine ⟨read, reads, ?_⟩
      unfold key withSign at keys
      simp only at keys
      split at keys <;> omega
    · contradiction

end Double

end RecordFilter
