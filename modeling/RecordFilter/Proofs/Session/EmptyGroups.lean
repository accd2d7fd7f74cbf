import RecordFilter.Proofs.Evaluation.EmptyGroups
import RecordFilter.Session.Basic

/-! Empty groups are seen in the list of groups and nowhere else, least
of all in what a session answers. -/

namespace RecordFilter

namespace Answer

/-- The lines that an answer reports, in their order. -/
def lines {α : Type} (answer : Answer α) : List String :=
  answer.events.map Event.line

end Answer

namespace Session

variable [Pattern.Engine] {document : Document} {node : NodePath} {set : ConditionSet}
  {current bareCurrent : Option Nat}

/-- What a session answers is what its query gives. -/
theorem get_result (session : Session) : session.get.result = session.query.result := by
  simp only [get]
  split <;> simp_all

/-- What a session reports is what its query reports. -/
theorem get_lines (session : Session) : session.get.lines = session.query.lines := by
  simp only [get]
  split <;> rfl

/-- A query gives and reports the same without the empty groups of its builder. -/
theorem query_withoutEmpty :
    (Session.mk document node ⟨set.withoutEmpty, bareCurrent⟩).query.result =
        (Session.mk document node ⟨set, current⟩).query.result ∧
      (Session.mk document node ⟨set.withoutEmpty, bareCurrent⟩).query.lines =
        (Session.mk document node ⟨set, current⟩).query.lines := by
  -- Both ask the same things of the set: whether it is empty, and what it leaves.
  simp only [query, ConditionBuilder.isEmpty, ConditionSet.isEmpty_withoutEmpty, conditions,
    ConditionBuilder.conditions]
  -- A node that leads nowhere is reported before the set is looked at.
  cases document.current.resolve node with
  | none => exact ⟨rfl, rfl⟩
  | some collection =>
    -- Without conditions the collection is given as it is, and otherwise it is filtered.
    by_cases empty : set.isEmpty = true
    · simp only [empty, if_true, and_self]
    · simp only [empty, if_false, Bool.false_eq_true]
      exact ⟨collection.evaluate_withoutEmpty_result, collection.evaluate_withoutEmpty_lines⟩

/--
A set and the set without its empty groups have the same text and the same conditions, and are empty
together. Filtering a collection and judging a record give the same value or the same failure by
either, and report the same lines. So does the query of a session that holds the one or the other,
and a finished builder gives its groups without the empty ones.
-/
theorem emptyGroups_unobservable (set : ConditionSet) :
    set.withoutEmpty.display = set.display ∧
    set.withoutEmpty.isEmpty = set.isEmpty ∧
    set.withoutEmpty.conditions = set.conditions ∧
    (∀ collection : Json,
      (collection.evaluate set.withoutEmpty).result = (collection.evaluate set).result ∧
      (collection.evaluate set.withoutEmpty).lines = (collection.evaluate set).lines) ∧
    (∀ record,
      (set.withoutEmpty.accepts record).result = (set.accepts record).result ∧
      (set.withoutEmpty.accepts record).lines = (set.accepts record).lines) ∧
    (∀ builder : ConditionBuilder,
      builder.build.groups = builder.conditions.groups.filter fun group => !group.isEmpty) ∧
    ∀ document node current bareCurrent,
      (Session.mk document node ⟨set.withoutEmpty, bareCurrent⟩).get.result =
          (Session.mk document node ⟨set, current⟩).get.result ∧
        (Session.mk document node ⟨set.withoutEmpty, bareCurrent⟩).get.lines =
          (Session.mk document node ⟨set, current⟩).get.lines := by
  refine ⟨ConditionSet.display_withoutEmpty, ConditionSet.isEmpty_withoutEmpty,
    ConditionSet.conditions_withoutEmpty set, fun collection => ?_, fun record => ?_,
    fun builder => rfl, fun document node current bareCurrent => ?_⟩
  · exact ⟨collection.evaluate_withoutEmpty_result, collection.evaluate_withoutEmpty_lines⟩
  · -- A record is judged by what the set is resolved to, which is the same altogether.
    rw [ConditionSet.accepts_withoutEmpty]
    exact ⟨rfl, rfl⟩
  · -- What a session gets is what its query gives, so the queries are compared.
    simp only [get_result, get_lines]
    exact query_withoutEmpty

end Session

end RecordFilter
