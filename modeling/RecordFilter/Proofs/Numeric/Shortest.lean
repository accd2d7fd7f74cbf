import RecordFilter.Numeric.Shortest
import RecordFilter.Proofs.Numeric.Digits
import RecordFilter.Proofs.Numeric.Nearest

/-! The shortest decimal of a double is found, rounds to the double,
and has at most seventeen digits. -/

namespace RecordFilter

/-- A number with so many digits lies between the powers of ten of that many places. -/
theorem digits_bounds (value : Nat) :
    0 < (digits value).length ∧ value < tenTo (digits value).length ∧
      (value ≠ 0 → tenTo ((digits value).length - 1) ≤ value) := by
  induction value using digits.induct with
  | case1 value small =>
    rw [digits, if_pos small]
    exact ⟨Nat.one_pos, small, Nat.one_le_iff_ne_zero.mpr⟩
  | case2 value large ih =>
    obtain ⟨some_, below, above⟩ := ih
    -- The places above the last one are one digit fewer, of which there is at least one.
    obtain ⟨places, length⟩ : ∃ places, (digits (value / 10)).length = places + 1 :=
      ⟨_, (Nat.sub_add_cancel some_).symm⟩
    have least := above (by omega)
    rw [length] at below least
    rw [digits, if_neg large, List.length_append, List.length_singleton, length]
    rw [Nat.add_sub_cancel] at least ⊢
    have upper := tenTo_succ (places + 1)
    have lower := tenTo_succ places
    exact ⟨by omega, by omega, fun _ => by omega⟩

namespace Decimal

variable {decimal : Decimal}

/-- A decimal with a finite double other than zero is neither zero
nor far from the range of doubles. -/
theorem toDouble_inRange (finite : decimal.toDouble.IsFinite)
    (nonzero : decimal.toDouble.isZero = false) :
    decimal.coefficient ≠ 0 ∧
      -400 ≤ decimal.exponent + (digits decimal.coefficient).length ∧
      decimal.exponent + (digits decimal.coefficient).length ≤ 400 := by
  unfold toDouble at finite nonzero
  simp only [beq_iff_eq, gt_iff_lt] at finite nonzero
  -- Otherwise its double would be a zero or an infinity.
  split at finite
  · simp_all [Double.isZero, Double.zero]
  · split at finite
    · exact absurd finite (Nat.lt_irrefl _)
    · split at finite
      · simp_all [Double.isZero, Double.zero]
      · rename_i some_ notAbove notBelow
        exact ⟨some_, by omega, by omega⟩

/-- In that range the double is the one nearest to the quotient that the decimal denotes. -/
theorem toDouble_of_inRange (some_ : decimal.coefficient ≠ 0)
    (low : -400 ≤ decimal.exponent + (digits decimal.coefficient).length)
    (high : decimal.exponent + (digits decimal.coefficient).length ≤ 400) :
    decimal.toDouble = Double.ofQuotient decimal.negative
      (decimal.coefficient * tenTo decimal.exponent.toNat) (tenTo (-decimal.exponent).toNat) := by
  simp only [toDouble, beq_iff_eq, some_, if_false]
  rw [if_neg (by omega), if_neg (by omega)]

end Decimal

namespace Double

/-- A double other than zero holds the smallest positive one. -/
theorem units_pos {value : Double} (nonzero : value.isZero = false) : 0 < value.units := by
  have magnitude : 0 < value.magnitude := Nat.pos_of_ne_zero (by simpa [isZero] using nonzero)
  exact unitsOf_strictMono magnitude

section Leading

variable {units : Nat}

/-- The smallest double is not below the place from which leading digits are looked for. -/
theorem unitsPerOne_le_tenTo : unitsPerOne ≤ tenTo 340 := by
  decide +kernel

/-- No finite double has more than three hundred and nine digits in front of its point. -/
theorem unitsOf_infinityBits_le : unitsOf infinityBits ≤ tenTo 309 * unitsPerOne := by
  decide +kernel

/-- The quotient that the leading digit is taken from lies between two powers of ten. -/
theorem leading_quotient (positive : 0 < units) :
    ∃ places : Nat, leadingExponent units = (places : Int) - 340 ∧
      tenTo places * unitsPerOne ≤ units * tenTo 340 ∧
      units * tenTo 340 < tenTo (places + 1) * unitsPerOne := by
  -- The scaled double is at least one, so there is a leading digit to be found.
  have nonzero : units * tenTo 340 / unitsPerOne ≠ 0 := by
    refine Nat.ne_of_gt ((Nat.le_div_iff_mul_le unitsPerOne_pos).mpr ?_)
    exact Nat.mul_le_mul positive unitsPerOne_le_tenTo
  obtain ⟨some_, below, above⟩ := digits_bounds (units * tenTo 340 / unitsPerOne)
  unfold leadingExponent
  generalize (digits (units * tenTo 340 / unitsPerOne)).length = length at some_ below above ⊢
  refine ⟨length - 1, by omega, ?_, ?_⟩
  · exact (Nat.le_div_iff_mul_le unitsPerOne_pos).mp (above nonzero)
  · rw [Nat.sub_add_cancel some_]
    exact (Nat.div_lt_iff_lt_mul unitsPerOne_pos).mp below

/-- Counted from its leading digit on, a double has one digit more
in front of each further place. -/
theorem leading_bounds (positive : 0 < units) (place : Nat) {exponent : Int}
    (counted : exponent = leadingExponent units - place) :
    tenTo place * (unitsPerOne * tenTo exponent.toNat) ≤ units * tenTo (-exponent).toNat ∧
      units * tenTo (-exponent).toNat <
        tenTo (place + 1) * (unitsPerOne * tenTo exponent.toNat) := by
  obtain ⟨places, leading, low, high⟩ := leading_quotient positive
  rw [leading] at counted
  -- Both bounds are moved by the same powers of ten, on the side where the exponent puts them.
  have power : tenTo places * tenTo (-exponent).toNat =
      tenTo place * tenTo exponent.toNat * tenTo 340 := by
    rw [← tenTo_add, ← tenTo_add, ← tenTo_add]
    congr 1
    omega
  have lowMoved := Nat.mul_le_mul_right (tenTo (-exponent).toNat) low
  have highMoved := Nat.mul_lt_mul_of_pos_right high (tenTo_pos (-exponent).toNat)
  rw [tenTo_succ places] at highMoved
  rw [tenTo_succ place]
  constructor
  · refine Nat.le_of_mul_le_mul_right ?_ (tenTo_pos 340)
    calc tenTo place * (unitsPerOne * tenTo exponent.toNat) * tenTo 340
      _ = tenTo place * tenTo exponent.toNat * tenTo 340 * unitsPerOne := by ring
      _ = tenTo places * unitsPerOne * tenTo (-exponent).toNat := by rw [← power]; ring
      _ ≤ units * tenTo 340 * tenTo (-exponent).toNat := lowMoved
      _ = units * tenTo (-exponent).toNat * tenTo 340 := by ring
  · suffices moved : units * tenTo (-exponent).toNat * tenTo 340 <
        tenTo place * 10 * (unitsPerOne * tenTo exponent.toNat) * tenTo 340 from
      Nat.lt_of_mul_lt_mul_right moved
    calc units * tenTo (-exponent).toNat * tenTo 340
      _ = units * tenTo 340 * tenTo (-exponent).toNat := by ring
      _ < tenTo places * 10 * unitsPerOne * tenTo (-exponent).toNat := highMoved
      _ = tenTo places * tenTo (-exponent).toNat * 10 * unitsPerOne := by ring
      _ = tenTo place * 10 * (unitsPerOne * tenTo exponent.toNat) * tenTo 340 := by
        rw [power]
        ring

/-- The leading digit of a finite double stands neither too far in front
of its point nor too far behind. -/
theorem leadingExponent_inRange {value : Double} (finite : value.IsFinite)
    (nonzero : value.isZero = false) :
    -340 ≤ leadingExponent value.units ∧ leadingExponent value.units ≤ 308 := by
  have positive := units_pos nonzero
  have below : value.units < unitsOf infinityBits := unitsOf_strictMono finite
  obtain ⟨places, leading, low, _⟩ := leading_quotient positive
  -- Further in front it would make the double larger than any finite one.
  have moved : tenTo places * unitsPerOne < tenTo 649 * unitsPerOne := by
    calc tenTo places * unitsPerOne
      _ ≤ value.units * tenTo 340 := low
      _ < tenTo 309 * unitsPerOne * tenTo 340 :=
        Nat.mul_lt_mul_of_pos_right (Nat.lt_of_lt_of_le below unitsOf_infinityBits_le) (tenTo_pos 340)
      _ = tenTo 649 * unitsPerOne := by
        rw [show 649 = 309 + 340 from rfl, tenTo_add]
        ring
  have few : places < 649 := by
    by_contra many
    have power := tenTo_mono (Nat.le_of_not_lt many)
    exact absurd (Nat.lt_of_mul_lt_mul_right moved) (Nat.not_lt.mpr power)
  omega

end Leading

section Candidates

variable {value : Double} {decimal : Decimal}

/-- A candidate lies next to the double at one of the first seventeen places. -/
theorem mem_candidates_iff :
    decimal ∈ value.candidates ↔
      ∃ place : Nat, place < 17 ∧
        decimal ∈ value.neighbours (leadingExponent value.units - place) := by
  simp [candidates]

/-- The decimals next to a double have no more digits than places were asked for, or are the power
of ten above those. -/
theorem coefficient_le (positive : 0 < value.units) (candidate : decimal ∈ value.candidates) :
    decimal.coefficient ≤ tenTo 17 := by
  obtain ⟨place, small, near⟩ := mem_candidates_iff.mp candidate
  obtain ⟨_, high⟩ := leading_bounds positive place rfl
  have divisor : 0 < unitsPerOne * tenTo (leadingExponent value.units - place).toNat :=
    Nat.mul_pos unitsPerOne_pos (tenTo_pos _)
  have below := (Nat.div_lt_iff_lt_mul divisor).mpr high
  have power : tenTo (place + 1) ≤ tenTo 17 := tenTo_mono (by omega)
  -- Both neighbours are the whole part of the scaled double, or the number after it.
  simp only [neighbours, List.mem_cons, List.not_mem_nil, or_false] at near
  rcases near with rfl | rfl
  · have rounded := roundQuotient_le divisor high
    exact Nat.le_trans rounded power
  · simp only
    split <;> omega

/-- The nearest of the decimals of seventeen digits rounds to the double, since half a step between
them is less than one part in two to the fifty-fourth. -/
theorem nearestMagnitude_seventeen (positive : 0 < value.units) {exponent : Int}
    (counted : exponent = leadingExponent value.units - (16 : Nat)) {coefficient : Nat}
    (nearest : coefficient = roundQuotient (value.units * tenTo (-exponent).toNat)
      (unitsPerOne * tenTo exponent.toNat)) :
    tenTo 16 ≤ coefficient ∧ coefficient ≤ tenTo 17 ∧
      nearestMagnitude (coefficient * tenTo exponent.toNat) (tenTo (-exponent).toNat) =
        value.magnitude := by
  obtain ⟨low, high⟩ := leading_bounds positive 16 counted
  have divisor : 0 < unitsPerOne * tenTo exponent.toNat := Nat.mul_pos unitsPerOne_pos (tenTo_pos _)
  -- Rounding to the grid of the decimals misses by half a step of it at most.
  obtain ⟨errorLow, errorHigh⟩ :=
    roundQuotient_error divisor (value.units * tenTo (-exponent).toNat)
  have least := le_roundQuotient divisor low
  have greatest := roundQuotient_le divisor high
  rw [← nearest] at errorLow errorHigh least greatest
  refine ⟨least, greatest, ?_⟩
  -- Both are counted in the smallest positive double, on the grid of the decimals.
  have parts : coefficient * tenTo exponent.toNat * unitsPerOne =
      coefficient * (unitsPerOne * tenTo exponent.toNat) := by ring
  rw [show tenTo 16 = 10000000000000000 from rfl] at low
  apply nearestMagnitude_of_near (tenTo_pos _)
  · rw [parts]
    change 2 ^ 54 * (value.units * _) < _ + value.units * _
    omega
  · rw [parts]
    change _ < 2 ^ 54 * (value.units * _) + value.units * _
    omega

/-- The nearest decimal of seventeen digits is a candidate, and rounds to the double. -/
theorem exists_candidate (finite : value.IsFinite) (nonzero : value.isZero = false) :
    ∃ decimal ∈ value.candidates, decimal.toDouble = value := by
  obtain ⟨leadingLow, leadingHigh⟩ := leadingExponent_inRange finite nonzero
  obtain ⟨exponent, counted⟩ : ∃ exponent, exponent = leadingExponent value.units - (16 : Nat) :=
    ⟨_, rfl⟩
  obtain ⟨coefficient, nearest⟩ : ∃ coefficient, coefficient = roundQuotient
      (value.units * tenTo (-exponent).toNat) (unitsPerOne * tenTo exponent.toNat) := ⟨_, rfl⟩
  obtain ⟨least, greatest, rounds⟩ :=
    nearestMagnitude_seventeen (units_pos nonzero) counted nearest
  have candidate : ⟨value.negative, coefficient, exponent⟩ ∈ value.candidates := by
    refine mem_candidates_iff.mpr ⟨16, by decide, ?_⟩
    rw [← counted, nearest]
    exact List.mem_cons_self
  refine ⟨_, candidate, ?_⟩
  -- The exponent is far from where decimals are not computed any more.
  rw [show tenTo 16 = 10000000000000000 from rfl] at least
  rw [show tenTo 17 = 100000000000000000 from rfl] at greatest
  have room : coefficient < tenTo 18 := by
    rw [show tenTo 18 = 1000000000000000000 from rfl]
    omega
  -- So it has as many digits as an exponent in range leaves room for.
  have length : (digits coefficient).length ≤ 18 := length_digits_le (by decide) room
  have some_ : coefficient ≠ 0 := by omega
  have low : -400 ≤ exponent + (digits coefficient).length := by omega
  have high : exponent + (digits coefficient).length ≤ 400 := by omega
  rw [Decimal.toDouble_of_inRange some_ low high, ofQuotient]
  simp only [rounds, Nat.min_eq_left (Nat.le_of_lt finite)]

/-- The search for the shortest decimal ends at one that rounds to the double. -/
theorem shortest_spec (finite : value.IsFinite) (nonzero : value.isZero = false) :
    value.shortest ∈ value.candidates ∧ value.shortest.toDouble = value := by
  obtain ⟨decimal, candidate, rounds⟩ := exists_candidate finite nonzero
  -- The search goes through the candidates, and there is one to be found.
  unfold shortest
  cases found : value.candidates.find? (fun decimal => decimal.toDouble == value) with
  | none =>
    have missed := List.find?_eq_none.mp found decimal candidate
    simp [rounds] at missed
  | some other =>
    exact ⟨List.mem_of_find?_eq_some found, by simpa using List.find?_some found⟩

end Candidates

end Double

end RecordFilter
