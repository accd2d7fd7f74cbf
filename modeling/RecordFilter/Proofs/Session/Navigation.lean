import RecordFilter.Proofs.Condition.Reachable
import RecordFilter.Proofs.Path.Joining
import RecordFilter.Proofs.Session.Narrowing

/-! Going to a node in two queries, of which the first has no conditions, is going there in one. -/

namespace RecordFilter

namespace ConditionSet

variable {set other : ConditionSet}

variable [Pattern.Engine]

/-- What a set leaves of a collection: all of it without conditions,
and what satisfies the set otherwise. -/
def restrict (set : ConditionSet) (collection : Json) : Json :=
  if set.conditions = [] then collection
  else collection.filterRecords fun record => decide (set.SatisfiedBy record)

/-- Sets that differ in empty groups only leave the same of every collection. -/
theorem restrict_congr (same : set.withoutEmpty = other.withoutEmpty) : set.restrict = other.restrict := by
  -- Neither the conditions of a set nor what satisfies it depend on its empty groups.
  have conditions : set.conditions = other.conditions := by
    rw [← conditions_withoutEmpty set, same, conditions_withoutEmpty]
  have satisfied : ∀ record, set.SatisfiedBy record ↔ other.SatisfiedBy record := by
    intro record
    rw [← satisfiedBy_withoutEmpty, same, satisfiedBy_withoutEmpty]
  funext collection
  simp only [restrict, conditions, satisfied]

/-- Of no records nothing but no records can be left. -/
theorem restrict_nothing : set.restrict (.array []) = .array [] := by
  unfold restrict
  split <;> rfl

end ConditionSet

namespace Session

section Engine

variable [Pattern.Engine] {session : Session}

/-- By known operators a query gives what its conditions leave of its collection, if it has one. -/
theorem query_of_known
    (known : ∀ condition ∈ session.conditions.conditions, Operator.isAllowed condition.operator = true) :
    session.query.result =
      .ok ((session.collection?.map session.conditions.restrict).getD (.array [])) := by
  cases found : session.collection? with
  | none => exact query_of_lost found
  | some collection =>
    rw [query_of_found found, ConditionSet.evaluate_of_known known]
    simp only [Option.map_some, Option.getD_some, ConditionSet.restrict]
    split <;> rfl

/-- A query leaves the document with its value, and nothing else of the session. -/
theorem get_of_known (session : Session)
    (known : ∀ condition ∈ session.conditions.conditions, Operator.isAllowed condition.operator = true) :
    let value := (session.collection?.map session.conditions.restrict).getD (.array [])
    session.get.result = .ok value ∧ session.get.session = session.after value :=
  get_of_ok (query_of_known known)

/-- A query without conditions gives its collection, or an empty array
in the place of a missing one. -/
theorem get_unconditional (session : Session) (unconditional : session.builder.isEmpty = true) :
    session.get.session = session.after (session.collection?.getD (.array [])) := by
  have none_ : session.conditions.conditions = [] := ConditionSet.isEmpty_iff.mp unconditional
  have whole : session.conditions.restrict = id := by
    funext collection
    simp [ConditionSet.restrict, none_]
  have given := (get_of_known session (by simp [none_])).2
  rwa [whole, Option.map_id_fun, id] at given

/-- A session without conditions that takes over a set gives what
the set leaves of the collection. -/
theorem get_whereSet_of_isEmpty (session : Session) (set : ConditionSet)
    (reachable : session.builder.Reachable)
    (unconditional : session.builder.isEmpty = true)
    (known : ∀ condition ∈ set.conditions, Operator.isAllowed condition.operator = true) :
    let value := (session.collection?.map set.restrict).getD (.array [])
    (session.whereSet set).get.result = .ok value ∧
      (session.whereSet set).get.session = session.after value := by
  have same : (session.whereSet set).conditions.withoutEmpty = set.withoutEmpty :=
    ConditionBuilder.splice_of_isEmpty reachable unconditional
  have conditions : (session.whereSet set).conditions.conditions = set.conditions := by
    rw [← ConditionSet.conditions_withoutEmpty, same, ConditionSet.conditions_withoutEmpty]
  have given := get_of_known (session.whereSet set) (by rwa [conditions])
  -- Taking over a set moves neither the document nor the node.
  rwa [ConditionSet.restrict_congr same] at given

/--
On a session without conditions, whatever empty groups its builder has, going to a node, querying,
going on from there and querying by a set of known operators gives the same value and leaves the
same session as going to both nodes at once and querying by the set. It does not matter which of the
two paths leads somewhere. The path of two dotted texts with a point between them is the path of the
one followed by that of the other, if neither is a text of the root.
-/
theorem get_in_two_steps (session : Session) (first second : NodePath) (set : ConditionSet)
    (reachable : session.builder.Reachable) (unconditional : session.builder.isEmpty = true)
    (known : ∀ condition ∈ set.conditions, Operator.isAllowed condition.operator = true) :
    (∃ value,
      ((((session.moveTo first).get.session.moveTo second).whereSet set).get.result = .ok value ∧
        (((session.moveTo first).get.session.moveTo second).whereSet set).get.session =
          session.after value) ∧
      (((session.moveTo (first ++ second)).whereSet set).get.result = .ok value ∧
        ((session.moveTo (first ++ second)).whereSet set).get.session = session.after value)) ∧
    ∀ front back, front ≠ "" → front ≠ "." → back ≠ "" → back ≠ "." →
      NodePath.ofText (front ++ "." ++ back) = NodePath.ofText front ++ NodePath.ofText back := by
  refine ⟨?_, fun front back some_ noPoint backSome backNoPoint =>
    NodePath.ofText_append some_ noPoint backSome backNoPoint⟩
  -- The first query leaves the node as the whole document, or an empty array in its place.
  have between := get_unconditional (session.moveTo first) unconditional
  have twice := get_whereSet_of_isEmpty ((session.moveTo first).get.session.moveTo second) set
    (by rw [between]; exact .new) (by rw [between]; rfl) known
  have once := get_whereSet_of_isEmpty (session.moveTo (first ++ second)) set
    reachable unconditional known
  refine ⟨_, ?_, once⟩
  -- Both queries filter what the two paths lead to, one behind the other.
  have same : ((((session.moveTo first).get.session.moveTo second).collection?).map
      set.restrict).getD (.array []) =
      ((session.moveTo (first ++ second)).collection?.map set.restrict).getD (.array []) := by
    rw [between]
    simp only [collection?, moveTo, after, Document.current, Option.getD_some,
      Json.resolve_append]
    cases found : (session.document.working.getD session.document.base).resolve first with
    | none =>
      -- From nowhere only the root leads on, to the empty array that no set takes anything from.
      rw [Option.getD_none, Json.resolve_nothing, Option.bind_none]
      split <;> simp [ConditionSet.restrict_nothing]
    | some node => rfl
  rw [← same]
  rw [between] at twice ⊢
  exact twice

end Engine

/-- A session over two people inside an object, with a group open that holds no conditions. -/
def openedGroup : Session :=
  ⟨.ofValue (.object [("data", .object [("people",
    .array [.object [("age", .string "30")], .object [("age", .string "12")]])])]), [.field "x"],
    ConditionBuilder.new.step (.orWhereGroup [])⟩

/-- The one of enough age is found in two steps, although a group
was open before the first of them. -/
theorem get_in_two_steps_openedGroup :
    ((((openedGroup.moveTo [.field "data"]).get.session.moveTo [.field "people"]).whereSet
        agedSet).get.result = .ok (.array [.object [("age", .string "30")]])) ∧
      NodePath.ofText ("." ++ "." ++ "7") ≠ NodePath.ofText "." ++ NodePath.ofText "7" ∧
      NodePath.ofText (".." ++ "." ++ "7") = NodePath.ofText ".." ++ NodePath.ofText "7" := by
  have reachable : openedGroup.builder.Reachable := .step .new _
  have unconditional : openedGroup.builder.isEmpty = true := rfl
  have known : ∀ condition ∈ agedSet.conditions, Operator.isAllowed condition.operator = true := by
    decide
  obtain ⟨⟨value, ⟨twice, _⟩, once, _⟩, joined⟩ := get_in_two_steps openedGroup [.field "data"]
    [.field "people"] agedSet reachable unconditional known
  refine ⟨?_, by decide, joined ".." "7" (by decide) (by decide) (by decide) (by decide)⟩
  -- At both nodes at once the two people are filtered by their age.
  have enough : agedSet.SatisfiedBy (.object [("age", .string "30")]) := by decide +kernel
  have short : ¬agedSet.SatisfiedBy (.object [("age", .string "12")]) := by decide +kernel
  have filtered := (get_whereSet_of_isEmpty
    (openedGroup.moveTo ([.field "data"] ++ [.field "people"])) agedSet
    reachable unconditional known).1
  have found : (openedGroup.moveTo ([.field "data"] ++ [.field "people"])).collection? =
      some (.array [.object [("age", .string "30")], .object [("age", .string "12")]]) := rfl
  have conditional : agedSet.conditions ≠ [] := List.cons_ne_nil _ _
  simp only [found, Option.map_some, Option.getD_some, ConditionSet.restrict, conditional, if_false,
    Json.filterRecords, List.filter_cons, List.filter_nil, decide_eq_true enough,
    decide_eq_false short, if_true, Bool.false_eq_true] at filtered
  rw [twice, ← once, filtered]

end Session

end RecordFilter
