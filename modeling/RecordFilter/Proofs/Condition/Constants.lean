import RecordFilter.Proofs.Condition.Single
import RecordFilter.Proofs.Evaluation.KnownOperators
import RecordFilter.Proofs.Json.DoubleReading

/-! Filters that ask for one number: which of them keep the same records,
and when their texts keep the number. -/

namespace RecordFilter

namespace Number

variable {number other : Number}

/-- A number is the same as itself. -/
theorem same_self (number : Number) : number.same number = true := by
  cases number <;> simp [same, Double.sameValue]

/-- Numbers that are the same are the same as the same numbers. -/
theorem same_congr (same_ : number.same other = true) (field : Number) :
    field.same number = field.same other := by
  -- Numbers of different representations are never the same.
  cases number with
  | integer value inRange =>
    cases other with
    | integer => cases field <;> simp_all [same]
    | double => simp [same] at same_
  | double value finite =>
    cases other with
    | integer => simp [same] at same_
    | double => cases field <;> simp_all [same, Double.sameValue]

end Number

namespace ConditionSet

/-- The filter that asks for a number under a key. -/
def exactly (key : String) (number : Number) : ConditionSet :=
  single ⟨key, "==", .number number⟩

variable {key : String} {number other : Number}

/-- The filter keeps the records whose field is the number. -/
theorem evaluate_exactly [Pattern.Engine] (key : String) (number : Number) (collection : Json) :
    (collection.evaluate (exactly key number)).result = .ok (collection.filterRecords fun record =>
      ((record.child (.field key)).getD .null).strictEq (.number number)) :=
  ConditionBuilder.evaluate_whereOperator key .exactEqual (.number number) collection

/-- Filters that ask for numbers keep the same records exactly when the numbers are the same. -/
theorem evaluate_exactly_iff [Pattern.Engine] (key : String) (number other : Number) :
    (∀ collection : Json, (collection.evaluate (exactly key other)).result =
        (collection.evaluate (exactly key number)).result) ↔ number.same other = true := by
  simp only [evaluate_exactly]
  constructor
  · intro same
    -- The record with the number in its field is kept by the filter that asks for the number.
    have kept := same (.array [.object [(key, .number number)]])
    by_contra differs
    simp [Json.filterRecords, Json.child, Json.find?, Json.strictEq, Json.agree, Json.sameScalar,
      Number.same_self, differs] at kept
  · intro same collection
    have agrees : ∀ field : Json, field.strictEq (.number other) = field.strictEq (.number number) := by
      intro field
      -- No other field than a number is ever equal to one.
      cases field <;> simp [Json.strictEq, Json.agree, Json.sameScalar, Number.same_congr same]
    simp only [agrees]

section Texts

variable {literal : NumberLiteral} {set : ConditionSet}

/-- An operand that is spelled as a number is read as the number that its literal denotes. -/
theorem exists_operand_iff (room : Nat) :
    (∃ operand, (Written.number literal).value? room = some operand ∧
        set = single ⟨key, "==", operand⟩) ↔
      ∃ read, literal.value? = some read ∧ set = exactly key read := by
  simp only [Written.value?, Option.map_eq_some_iff]
  -- The operand is a number, and the filter asks for that number.
  constructor
  · intro ⟨operand, ⟨read, denotes, same⟩, found⟩
    exact ⟨read, denotes, by rw [found, exactly, same]⟩
  · intro ⟨read, denotes, found⟩
    exact ⟨_, ⟨read, denotes, rfl⟩, found⟩

/-- From the expression of such a filter it is read with the number that its literal denotes. -/
theorem parse_exactly_iff (spelled : literal.Spelled number.text) :
    parse (exactly key number).display.toList = .ok set ↔
      ∃ read, literal.value? = some read ∧ set = exactly key read := by
  have document : Written.Spelled (.number literal) (Json.number number).write := .number spelled
  have token : Expression.IsToken "==".toList := by decide
  rw [exactly, parse_display_single_iff token rfl document]
  exact exists_operand_iff Json.nestingLimit

/-- From the document of such a filter it is read with the number that its literal denotes. -/
theorem deserialize_exactly_iff (spelled : literal.Spelled number.text) :
    deserialize (exactly key number).toJson.write = some set ↔
      ∃ read, literal.value? = some read ∧ set = exactly key read := by
  have document : Written.Spelled (.number literal) (Json.number number).write := .number spelled
  rw [exactly, deserialize_single_iff document]
  exact exists_operand_iff Condition.operandRoom

end Texts

/--
A filter that asks for a finite double keeps the same records after its expression was read back
exactly when the reader of numbers, which rounds at every step, finds the double again behind its
shortest digits; and so it does after its document was read back. The digits are read as a natural
number, which is rounded to a double, and that is multiplied with a power of ten or divided by one;
whole numbers below ten to the sixteenth are read with one more digit, and then divided by ten.
Zeros always come back, and so does every double whose digits are at most two to the fifty-third and
whose last digit is no further than twenty-two places from the ones, unless it is a whole number of
sixteen digits.
-/
theorem exactly_restored_iff [Pattern.Engine] (key : String) (value : Double) (finite : value.IsFinite) :
    ((∃ restored, parse (exactly key (.double value finite)).display.toList = .ok restored ∧
        ∀ collection : Json, (collection.evaluate restored).result =
          (collection.evaluate (exactly key (.double value finite))).result) ↔ value.Restored) ∧
    ((∃ restored, deserialize (exactly key (.double value finite)).toJson.write = some restored ∧
        ∀ collection : Json, (collection.evaluate restored).result =
          (collection.evaluate (exactly key (.double value finite))).result) ↔ value.Restored) ∧
    (value.isZero = true ∨ value.Moderate → value.Restored) := by
  obtain ⟨literal, spelled, denotes⟩ := Double.exists_literal finite
  have spelled : literal.Spelled (Number.double value finite).text := spelled
  -- Either text gives the filter with the number that is read, so it is that number that counts.
  have same : value.Restored ↔ ∃ restored,
      (∃ read, literal.value? = some read ∧ restored = exactly key read) ∧
        ∀ collection : Json, (collection.evaluate restored).result =
          (collection.evaluate (exactly key (.double value finite))).result := by
    rw [Double.restored_iff finite, denotes]
    constructor
    · intro ⟨read, found, equal⟩
      exact ⟨_, ⟨read, found, rfl⟩, (evaluate_exactly_iff key _ read).mpr equal⟩
    · -- Filters that keep the same records ask for the same number, and not only similar ones.
      rintro ⟨_, ⟨read, found, rfl⟩, alike⟩
      exact ⟨read, found, (evaluate_exactly_iff key _ read).mp alike⟩
  -- The last part gives easy cases in which the reader finds the double again.
  refine ⟨?_, ?_, ?_⟩
  · rw [same]
    simp only [parse_exactly_iff spelled]
  · rw [same]
    simp only [deserialize_exactly_iff spelled]
  · intro easy
    rcases easy with zero | moderate
    · exact Double.restored_of_isZero zero
    · exact Double.restored_of_moderate finite moderate

/-- The double nearest to a tenth. -/
def tenth : Double := ⟨false, 4591870180066957722, by decide⟩

/-- It is a number. -/
theorem isFinite_tenth : tenth.IsFinite := by decide

/-- A filter that asks for a tenth still does so after it was stored in either way. -/
theorem exactly_restored_tenth :
    (∃ restored, parse (exactly "rate" (.double tenth isFinite_tenth)).display.toList = .ok restored ∧
        ∀ collection : Json, (collection.evaluate restored).result =
          (collection.evaluate (exactly "rate" (.double tenth isFinite_tenth))).result) ∧
    (∃ restored,
        deserialize (exactly "rate" (.double tenth isFinite_tenth)).toJson.write = some restored ∧
        ∀ collection : Json, (collection.evaluate restored).result =
          (collection.evaluate (exactly "rate" (.double tenth isFinite_tenth))).result) := by
  have moderate : tenth.Moderate := by decide +kernel
  obtain ⟨parsed, deserialized, easy⟩ := exactly_restored_iff "rate" tenth isFinite_tenth
  have restored := easy (.inr moderate)
  exact ⟨parsed.mpr restored, deserialized.mpr restored⟩

/-- A whole number of sixteen digits. -/
def sixteenDigits : Double := ⟨false, 4839762400168542228, by decide⟩

/-- It is a number, too. -/
theorem isFinite_sixteenDigits : sixteenDigits.IsFinite := by decide

/-- The double next to it, half a unit below. -/
def halfBelow : Double := ⟨false, 4839762400168542227, by decide⟩

/-- And so is this one. -/
theorem isFinite_halfBelow : halfBelow.IsFinite := by decide

/-- The record that has the whole number in its field. -/
def sixteenDigitsRecord : Json :=
  .object [("x", .number (.double sixteenDigits isFinite_sixteenDigits))]

/-- A filter that asks for a whole number of sixteen digits comes back from either text asking for
the number half a unit below, and drops the record that it kept. -/
theorem exactly_forgotten :
    ∃ restored,
      parse (exactly "x" (.double sixteenDigits isFinite_sixteenDigits)).display.toList =
        .ok restored ∧
      deserialize (exactly "x" (.double sixteenDigits isFinite_sixteenDigits)).toJson.write =
        some restored ∧
      ((Json.array [sixteenDigitsRecord]).evaluate
        (exactly "x" (.double sixteenDigits isFinite_sixteenDigits))).result =
          .ok (.array [sixteenDigitsRecord]) ∧
      ((Json.array [sixteenDigitsRecord]).evaluate restored).result = .ok (.array []) := by
  obtain ⟨literal, spelled, denotes⟩ := Double.exists_literal isFinite_sixteenDigits
  have spelled : literal.Spelled (Number.double sixteenDigits isFinite_sixteenDigits).text := spelled
  -- The digits with the zero behind the point are no double, and neither is their tenth.
  have read : sixteenDigits.rereadNumber? = some (.double halfBelow isFinite_halfBelow) := by
    decide +kernel
  have differs : sixteenDigits.sameValue halfBelow = false := by decide
  rw [read] at denotes
  refine ⟨exactly "x" (.double halfBelow isFinite_halfBelow),
    (parse_exactly_iff spelled).mpr ⟨_, denotes, rfl⟩,
    (deserialize_exactly_iff spelled).mpr ⟨_, denotes, rfl⟩, ?_, ?_⟩
  · simp [evaluate_exactly, sixteenDigitsRecord, Json.filterRecords, Json.child, Json.find?,
      Json.strictEq, Json.agree, Json.sameScalar, Number.same_self]
  · simp [evaluate_exactly, sixteenDigitsRecord, Json.filterRecords, Json.child, Json.find?,
      Json.strictEq, Json.agree, Json.sameScalar, Number.same, differs]

end ConditionSet

end RecordFilter
