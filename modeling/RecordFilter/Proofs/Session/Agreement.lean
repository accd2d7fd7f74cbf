import RecordFilter.Proofs.Session.Query
import RecordFilter.Session.Workspace

/-! The three ways to ask for a result agree, and asking again is
always asking about the same value. -/

namespace RecordFilter

namespace Json

variable {value : Json}

/-- The first record that is given is the first one there is. -/
theorem firstRecord?_eq_head? : value.firstRecord? = value.records.head? := by
  -- Null and other scalars have no records, so their first one is missing too.
  cases value with
  | array items => cases items <;> rfl
  | object members => cases members <;> rfl
  | null | bool | number | string => rfl

/-- Of an array or an object the records are counted. -/
theorem resultCount_of_collection (collection : value.isScalar = false) :
    value.resultCount = value.records.length := by
  -- Members are counted by their values, of which there are as many.
  cases value with
  | array items => rfl
  | object members => exact (List.length_map Prod.snd).symm
  | null | bool | number | string => exact absurd collection.symm Bool.false_ne_true

/-- A scalar counts for one, as long as it is not null. -/
theorem resultCount_of_scalar (scalar : value.isScalar = true) (present : value ≠ .null) :
    value.resultCount = 1 := by
  cases value with
  | null => exact absurd rfl present
  | bool | number | string => rfl
  | array | object => exact absurd scalar Bool.false_ne_true

/-- Filtering gives an array or an object, even where there was a scalar. -/
theorem isScalar_filterRecords (keep : Json → Bool) (collection : Json) :
    (collection.filterRecords keep).isScalar = false := by
  cases collection <;> rfl

end Json

/-- A way to ask for the result of a query. -/
inductive Question
  /-- For the value itself. -/
  | value
  /-- For its first record, if there is one. -/
  | first
  /-- For the number of its records. -/
  | count

namespace Question

/-- The step that asks a question. -/
def step : Question → SessionStep
  | .value => .get
  | .first => .first
  | .count => .count

/-- What is replied to a question about a value. -/
def replyAbout (value : Json) : Question → Reply
  | .value => .value value
  | .first => .record value.records.head?
  | .count => .number value.resultCount

end Question

namespace Session

variable {session : Session} {value : Json}

/-- A value that is left once more is left as before. -/
theorem after_after : (session.after value).after value = session.after value := rfl

variable [Pattern.Engine]

/-- Asks several questions one after another: the replies to them, and the session that is left. -/
def askAll (session : Session) : List Question → List Reply × Session
  | [] => ([], session)
  | question :: rest =>
    let progress := session.step question.step
    let (replies, left) := progress.session.askAll rest
    (progress.reply :: replies, left)

/-- A query that asked for known conditions never gives a scalar. -/
theorem Gives.isScalar_eq_false (gives : session.Gives value)
    (conditional : session.conditions.conditions ≠ []) : value.isScalar = false := by
  cases gives with
  | nowhere => rfl
  | whole _ unconditional => exact absurd unconditional conditional
  | @filtered collection _ _ _ kept =>
    -- Filtering has given a value, so it went through the resolved set.
    rw [ConditionSet.evaluate_result] at kept
    cases resolved : session.conditions.compile.result with
    | error failure => simp [resolved, Except.map] at kept
    | ok compiled =>
      rw [resolved, Except.map, Except.ok.injEq] at kept
      exact kept ▸ Json.isScalar_filterRecords _ collection

/-- Any question about a session whose query gives a value is answered
by it, and leaves it behind. -/
theorem step_of_ok (given : session.query.result = .ok value) (question : Question) :
    (session.step question.step).reply = question.replyAbout value ∧
      (session.step question.step).session = session.after value := by
  obtain ⟨result, left⟩ := get_of_ok given
  -- All three read the answer of the same query, each in its way.
  cases question with
  | value => exact ⟨congrArg (Reply.ofResult .value) result, left⟩
  | first =>
    have headed : session.first.result = .ok value.records.head? := by
      rw [← Json.firstRecord?_eq_head?]
      exact Answer.result_map_of_ok _ result
    exact ⟨congrArg (Reply.ofResult .record) headed, left⟩
  | count =>
    have counted : session.count.result = .ok value.resultCount := Answer.result_map_of_ok _ result
    exact ⟨congrArg (Reply.ofResult .number) counted, left⟩

/-- The query of a session that a value was left to gives the value again. -/
theorem query_after (session : Session) (value : Json) :
    (session.after value).query.result = .ok value := rfl

/-- All questions about a session that a value was left to are answered
by it, and leave it behind. -/
theorem askAll_after (questions : List Question) :
    (session.after value).askAll questions =
      (questions.map (·.replyAbout value), session.after value) := by
  induction questions with
  | nil => rfl
  | cons question rest ih =>
    -- The first question is answered by the value and leaves the session as it is to the others.
    obtain ⟨reply, left⟩ := step_of_ok (session.query_after value) question
    rw [after_after] at left
    simp only [askAll, reply, left, ih, List.map_cons]

/--
In every state of a session, asking for the value, for its first record or for their number either
fails with one failure whichever is asked for, and leaves the session alone, or always succeeds and
leaves the same session. In that one the first record is the first of the value's, their number is
how many there are, or none for null and one for any other scalar, and whatever is asked from then
on is answered about the same value. Under conditions there is no record exactly where the number is
zero, and where no first record is given.
-/
theorem get_first_count_agree (session : Session) :
    (∃ failure,
      (session.get.result = .error failure ∧ session.get.session = session) ∧
      (session.first.result = .error failure ∧ session.first.session = session) ∧
      (session.count.result = .error failure ∧ session.count.session = session)) ∨
    ∃ value,
      (session.get.result = .ok value ∧ session.get.session = session.after value) ∧
      (session.first.result = .ok value.records.head? ∧
        session.first.session = session.after value) ∧
      (session.count.result = .ok value.resultCount ∧ session.count.session = session.after value) ∧
      (value.isScalar = false → value.resultCount = value.records.length) ∧
      (value = .null → value.resultCount = 0) ∧
      (value.isScalar = true → value ≠ .null → value.resultCount = 1) ∧
      (session.conditions.conditions ≠ [] →
        (value.resultCount = 0 ↔ value.records.head? = none) ∧
        (value.records.head? = none ↔ value.records = [])) ∧
      ∀ questions, (session.after value).askAll questions =
        (questions.map (·.replyAbout value), session.after value) := by
  by_cases blocked : session.Blocked
  · -- All three name the first operator that is unknown.
    obtain ⟨condition, _, failed⟩ := answers_of_blocked blocked
    exact .inl ⟨_, failed⟩
  · -- All three go by the one value of the query and leave it behind.
    obtain ⟨value, gives, get, first, count⟩ := answers_of_unblocked blocked
    rw [Json.firstRecord?_eq_head?] at first
    refine .inr ⟨value, get, first, count, Json.resultCount_of_collection,
      ?_, Json.resultCount_of_scalar, ?_, askAll_after⟩
    · rintro rfl
      rfl
    · intro conditional
      -- A filtered value is no scalar, so its number is that of its records.
      have size := Json.resultCount_of_collection (gives.isScalar_eq_false conditional)
      rw [size, List.length_eq_zero_iff, List.head?_eq_none_iff]
      exact ⟨Iff.rfl, Iff.rfl⟩

end Session

end RecordFilter
