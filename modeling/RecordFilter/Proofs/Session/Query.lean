import RecordFilter.Proofs.Condition.Building
import RecordFilter.Proofs.Evaluation.Meaning
import RecordFilter.Session.Basic

/-! A query either fails and leaves its session alone, or leaves its value as the whole document. -/

namespace RecordFilter

namespace Session

/-- The collection that a query filters, if its path leads to one. -/
def collection? (session : Session) : Option Json :=
  session.document.current.resolve session.node

section Engine

variable [Pattern.Engine]

/-- A session whose query gives a value, by the path, the conditions, or the filter. -/
inductive Gives (session : Session) : Json → Prop
  /-- A path that leads nowhere gives an empty array. -/
  | nowhere (lost : session.collection? = none) : Gives session (.array [])
  /-- Without conditions, in whatever groups, the collection is given as it is. -/
  | whole {collection : Json} (found : session.collection? = some collection)
      (unconditional : session.conditions.conditions = []) : Gives session collection
  /-- Otherwise the collection is filtered by the conditions. -/
  | filtered {collection value : Json} (found : session.collection? = some collection)
      (conditional : session.conditions.conditions ≠ [])
      (kept : (collection.evaluate session.conditions).result = .ok value) : Gives session value

end Engine

/-- A session whose query fails: its path leads somewhere, and some condition has no operator. -/
def Blocked (session : Session) : Prop :=
  (∃ collection, session.collection? = some collection) ∧
    ∃ condition ∈ session.conditions.conditions, Operator.isAllowed condition.operator = false

/-- The session over the same loaded document whose query has given a value, and nothing else. -/
def after (session : Session) (value : Json) : Session :=
  ⟨⟨session.document.source, session.document.base, some value⟩, [], ConditionBuilder.new⟩

end Session

namespace Answer

/-- An answer with a result has the view of it as the result of its own view. -/
theorem result_map_of_ok {α β : Type} {answer : Answer α} {result : α} (view : α → β)
    (given : answer.result = .ok result) : (answer.map view).result = .ok (view result) := by
  rw [map, given]
  rfl

end Answer

namespace ConditionSet

/-- There is a first unknown operator exactly when there is one at all. -/
theorem exists_firstUnknown_iff {set : ConditionSet} :
    (∃ condition, set.firstUnknown? = some condition) ↔
      ∃ condition ∈ set.conditions, Operator.isAllowed condition.operator = false := by
  rw [← Option.isSome_iff_exists, firstUnknown?, List.find?_isSome]
  simp [Condition.isUnknown]

/-- A set with an unknown operator has conditions. -/
theorem conditions_ne_nil {set : ConditionSet} {condition : Condition}
    (unknown : set.firstUnknown? = some condition) : set.conditions ≠ [] := by
  intro none_
  simp [firstUnknown?, none_] at unknown

end ConditionSet

namespace Session

variable {session : Session}

/-- A session without conditions takes over those of a set, and none of its empty groups. -/
theorem conditions_whereSet_new (document : Document) (node : NodePath) (set : ConditionSet) :
    (((ofDocument document).moveTo node).whereSet set).conditions = set.withoutEmpty :=
  congrArg ConditionBuilder.set (ConditionBuilder.splice_new set)

/-- The document that is left behind holds the value, over the base that was loaded. -/
@[simp] theorem document_after (value : Json) :
    (session.after value).document = session.document.replace value := rfl

variable [Pattern.Engine]

/-- A query evaluates its collection only where there are conditions. -/
theorem query_of_found {collection : Json} (found : session.collection? = some collection) :
    session.query.result =
      if session.conditions.conditions = [] then .ok collection
      else (collection.evaluate session.conditions).result := by
  unfold query
  rw [← collection?, found]
  -- The builder asks whether it holds conditions, not whether it holds groups.
  by_cases empty : session.conditions.conditions = []
  · -- Empty groups hold nothing to filter by.
    have builder : session.builder.isEmpty = true := ConditionSet.isEmpty_iff.mpr empty
    simp [empty, builder]
  · have builder : session.builder.isEmpty ≠ true := fun none_ =>
      empty (ConditionSet.isEmpty_iff.mp none_)
    simp [empty, builder]

/-- A query whose path leads nowhere gives an empty array, whatever its conditions are. -/
theorem query_of_lost (lost : session.collection? = none) : session.query.result = .ok (.array []) := by
  unfold query
  rw [← collection?, lost]

/-- A query of a blocked session fails with the first operator that is unknown. -/
theorem query_of_blocked (blocked : session.Blocked) :
    ∃ condition, session.conditions.firstUnknown? = some condition ∧
      session.query.result = .error (.conditionNotAllowed condition.operator) := by
  obtain ⟨⟨collection, found⟩, unknown⟩ := blocked
  -- Some operator is unknown, so there is a first one, and it is named.
  obtain ⟨condition, first⟩ := ConditionSet.exists_firstUnknown_iff.mpr unknown
  refine ⟨condition, first, ?_⟩
  -- An unknown operator is a condition, so the collection is evaluated and not just given.
  rw [query_of_found found, if_neg (ConditionSet.conditions_ne_nil first),
    ConditionSet.evaluate_result, ConditionSet.compile_result, first]
  rfl

/-- A query of a session that is not blocked gives a value. -/
theorem query_of_unblocked (unblocked : ¬session.Blocked) :
    ∃ value, session.Gives value ∧ session.query.result = .ok value := by
  -- Three things may happen: the path is lost, nothing is asked, or the collection is filtered.
  cases found : session.collection? with
  | none => exact ⟨_, .nowhere found, query_of_lost found⟩
  | some collection =>
    by_cases empty : session.conditions.conditions = []
    · exact ⟨collection, .whole found empty, by rw [query_of_found found, if_pos empty]⟩
    · -- The path leads somewhere, so only a known operator in every condition keeps it unblocked.
      have known : ∀ condition ∈ session.conditions.conditions,
          Operator.isAllowed condition.operator = true := by
        intro condition inside
        cases allowed : Operator.isAllowed condition.operator with
        | true => rfl
        | false => exact absurd ⟨⟨collection, found⟩, condition, inside, allowed⟩ unblocked
      -- Filtering by known operators cannot fail.
      have kept := ConditionSet.evaluate_of_known known collection
      exact ⟨_, .filtered found empty kept, by rw [query_of_found found, if_neg empty, kept]⟩

/-- What a query gives is what it answers with and what it leaves. -/
theorem get_of_ok {value : Json} (given : session.query.result = .ok value) :
    session.get.result = .ok value ∧ session.get.session = session.after value := by
  simp only [get, given]
  exact ⟨trivial, rfl⟩

/-- A query that fails answers with its failure and leaves the session as it was. -/
theorem get_of_error {failure : Failure} (failed : session.query.result = .error failure) :
    session.get.result = .error failure ∧ session.get.session = session := by
  simp only [get, failed, and_self]

/-- All three ways to ask a blocked session fail with its first unknown
operator, and leave it as it was. -/
theorem answers_of_blocked (blocked : session.Blocked) :
    ∃ condition, session.conditions.firstUnknown? = some condition ∧
      (session.get.result = .error (.conditionNotAllowed condition.operator) ∧
        session.get.session = session) ∧
      (session.first.result = .error (.conditionNotAllowed condition.operator) ∧
        session.first.session = session) ∧
      (session.count.result = .error (.conditionNotAllowed condition.operator) ∧
        session.count.session = session) := by
  -- All three ask for the query itself, which fails and leaves the session.
  obtain ⟨condition, unknown, failed⟩ := query_of_blocked blocked
  obtain ⟨result, same⟩ := get_of_error failed
  refine ⟨condition, unknown, ⟨result, same⟩, ⟨?_, same⟩, ?_, same⟩
  · rw [first, Answer.map, result, Except.map]
  · rw [count, Answer.map, result, Except.map]

/-- All three ways to ask any other session view the one value that
its query gives, and leave it behind. -/
theorem answers_of_unblocked (unblocked : ¬session.Blocked) :
    ∃ value, session.Gives value ∧
      (session.get.result = .ok value ∧ session.get.session = session.after value) ∧
      (session.first.result = .ok value.firstRecord? ∧
        session.first.session = session.after value) ∧
      (session.count.result = .ok value.resultCount ∧
        session.count.session = session.after value) := by
  obtain ⟨value, gives, given⟩ := query_of_unblocked unblocked
  -- The other two ways only view the result of the first.
  obtain ⟨result, left⟩ := get_of_ok given
  exact ⟨value, gives, ⟨result, left⟩, ⟨Answer.result_map_of_ok _ result, left⟩,
    Answer.result_map_of_ok _ result, left⟩

/-- So whichever way is asked, there is a failure exactly where the session is blocked. -/
theorem fails_iff_blocked (session : Session) :
    ((∃ failure, session.get.result = .error failure) ↔ session.Blocked) ∧
    ((∃ failure, session.first.result = .error failure) ↔ session.Blocked) ∧
    ((∃ failure, session.count.result = .error failure) ↔ session.Blocked) := by
  by_cases blocked : session.Blocked
  · obtain ⟨condition, _, ⟨get, _⟩, ⟨first, _⟩, ⟨count, _⟩⟩ := answers_of_blocked blocked
    simp [blocked, get, first, count]
  · obtain ⟨value, _, ⟨get, _⟩, ⟨first, _⟩, ⟨count, _⟩⟩ := answers_of_unblocked blocked
    simp [blocked, get, first, count]

/--
A query fails exactly where its path leads somewhere and a condition has no known operator. It then
names the first such operator and leaves the session as it was. Otherwise it gives one value, from
which all three ways to ask take their answers, and leaves a session without a path or conditions
over the same base, whose current document is that value.
-/
theorem query_atomic (session : Session) :
    ((∃ failure, session.get.result = .error failure) ↔ session.Blocked) ∧
    ((∃ failure, session.first.result = .error failure) ↔ session.Blocked) ∧
    ((∃ failure, session.count.result = .error failure) ↔ session.Blocked) ∧
    (session.Blocked → ∃ condition, session.conditions.firstUnknown? = some condition ∧
      (session.get.result = .error (.conditionNotAllowed condition.operator) ∧
        session.get.session = session) ∧
      (session.first.result = .error (.conditionNotAllowed condition.operator) ∧
        session.first.session = session) ∧
      (session.count.result = .error (.conditionNotAllowed condition.operator) ∧
        session.count.session = session)) ∧
    (¬session.Blocked → ∃ value, session.Gives value ∧
      (session.get.result = .ok value ∧ session.get.session = session.after value ∧
        session.get.session.document.current = value) ∧
      (session.first.result = .ok value.firstRecord? ∧
        session.first.session = session.after value ∧
        session.first.session.document.current = value) ∧
      (session.count.result = .ok value.resultCount ∧
        session.count.session = session.after value ∧
        session.count.session.document.current = value)) := by
  obtain ⟨get, first, count⟩ := session.fails_iff_blocked
  refine ⟨get, first, count, answers_of_blocked, fun unblocked => ?_⟩
  obtain ⟨value, gives, ⟨got, left⟩, ⟨headed, leftByFirst⟩, ⟨counted, leftByCount⟩⟩ :=
    answers_of_unblocked unblocked
  -- What is left behind holds the value, and that is what is current from then on.
  exact ⟨value, gives, ⟨got, left, by simp [left]⟩, ⟨headed, leftByFirst, by simp [leftByFirst]⟩,
    counted, leftByCount, by simp [leftByCount]⟩

end Session

end RecordFilter
