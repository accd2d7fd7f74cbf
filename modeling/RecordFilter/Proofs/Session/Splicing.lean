import RecordFilter.Proofs.Session.EmptyGroups
import RecordFilter.Proofs.Session.Query
import RecordFilter.Session.Workspace

/-! A finished set goes in behind the groups of a session, and a new
session answers by the set alone. -/

namespace RecordFilter

namespace Session

section Engine

variable [Pattern.Engine] {session : Session}

/-- A session that steps have led to from an opened document. -/
inductive Reachable : Session → Prop
  /-- A document has been opened, for the first time or anew. -/
  | opened (document : Document) : Reachable (ofDocument document)
  /-- A step has been taken, be it a query that failed. -/
  | step {session : Session} (before : Reachable session) (step : SessionStep) :
      Reachable (session.step step).session
  /-- What was asked to fill a group has given back a builder of its own instead. -/
  | exchanged {session : Session} {builder : ConditionBuilder} (before : Reachable session)
      (built : builder.Reachable) : Reachable (session.chain fun _ => builder)

/-- A query leaves the session as it was, or one without conditions. -/
theorem get_session (session : Session) :
    session.get.session = session ∨ ∃ document, session.get.session = ofDocument document := by
  simp only [get]
  split
  · exact .inl rfl
  · exact .inr ⟨_, rfl⟩

/-- Steps of a session lead its builder nowhere that steps of the builder do not. -/
theorem Reachable.builder (reachable : session.Reachable) : session.builder.Reachable := by
  -- The steps are followed one by one: some change the builder,
  -- and the others leave it or clear it.
  induction reachable with
  | opened document => exact .new
  | @step session _ step ih =>
    -- All three ways to ask leave the same session behind.
    have queried : session.get.session.builder.Reachable := by
      rcases session.get_session with same | ⟨document, left⟩
      · rwa [same]
      · rw [left]
        exact .new
    cases step with
    | moveTo node => exact ih
    | build step => exact .step ih step
    | whereSet set => exact .splice ih set
    | get | first | count => exact queried
    | reset => exact .new
  | exchanged _ built => exact built

/-- The session with further conditions, each of which must hold together with those before it. -/
def andWhereAll (session : Session) (conditions : List Condition) : Session :=
  -- Each condition is added by a step of its own.
  conditions.foldl (fun session condition => (session.step (.build (.andWhere condition))).session)
    session

/-- Further conditions change the builder alone. -/
theorem builder_andWhereAll (session : Session) (conditions : List Condition) :
    (session.andWhereAll conditions).builder =
      conditions.foldl ConditionBuilder.andWhere session.builder := by
  induction conditions generalizing session with
  | nil => rfl
  | cons condition rest ih => exact ih _

/-- A new session answers a query by a set as the set answers for the
collection, empty groups or not. -/
theorem get_whereSet_new {document : Document} {node : NodePath} {collection : Json}
    (found : document.current.resolve node = some collection) (set : ConditionSet) :
    (((ofDocument document).moveTo node).whereSet set).get.result =
      if set.conditions = [] then .ok collection else (collection.evaluate set).result := by
  have there : (((ofDocument document).moveTo node).whereSet set).collection? = some collection :=
    found
  -- The session holds the groups with conditions only, which filter
  -- a collection as the whole set does.
  rw [get_result, query_of_found there, conditions_whereSet_new,
    ConditionSet.conditions_withoutEmpty, Json.evaluate_withoutEmpty_result]

/--
In a session that has been reached in any way, a set joins the groups that are there: its first
group goes into the last of them, or opens one if there is none and it has conditions, and the
others follow as far as they hold conditions. Whatever conditions are added later join the last
group. So a new session at a node gives what the set leaves of the collection there, or fails as the
set does, and gives the whole collection if the set has no conditions.
-/
theorem whereSet_splices (reachable : session.Reachable) (set : ConditionSet) :
    (session.whereSet set).conditions.groups =
        ConditionBuilder.spliced session.conditions.groups set.groups ∧
      (∀ later : List Condition,
        ((session.whereSet set).andWhereAll later).conditions.groups =
          ConditionBuilder.joinLast (session.whereSet set).conditions.groups later) ∧
      ∀ document node collection, document.current.resolve node = some collection →
        (((ofDocument document).moveTo node).whereSet set).get.result =
          if set.conditions = [] then .ok collection else (collection.evaluate set).result := by
  obtain ⟨groups, built⟩ := reachable.builder.exists_groups
  have spliced : (session.whereSet set).builder =
      .ofGroups (ConditionBuilder.spliced groups set.groups) := by
    rw [whereSet, chain, built, ConditionBuilder.splice_ofGroups]
  -- The groups of a builder do not tell which of them is current, but it is always the last.
  refine ⟨?_, fun later => ?_, fun document node collection found => get_whereSet_new found set⟩
  · rw [conditions, conditions, spliced, built]
    rfl
  · rw [conditions, conditions, builder_andWhereAll, spliced, ConditionBuilder.foldl_andWhere_ofGroups]
    rfl

end Engine

/-- A session with a condition, and behind it an open group that holds none. -/
def openBehind : Session :=
  (((ofValue (.array [])).step (.build (.orWhere ⟨"a", "=", .null⟩))).session.step
    (.build (.orWhereGroup []))).session

/-- A set with an empty group between two others, of which the last has an unknown token. -/
def gappedSet : ConditionSet :=
  ⟨[[⟨"b", "null", .null⟩], [], [⟨"c", "=", .null⟩, ⟨"d", "~=", .null⟩]]⟩

/-- The open group takes in the first group of the set, and the
unknown token is named by a query. -/
theorem whereSet_splices_gapped :
    openBehind.Reachable ∧
      (openBehind.whereSet gappedSet).conditions.groups =
        [[⟨"a", "=", .null⟩], [⟨"b", "null", .null⟩], [⟨"c", "=", .null⟩, ⟨"d", "~=", .null⟩]] ∧
      ((openBehind.whereSet gappedSet).andWhereAll [⟨"e", ">", .null⟩]).conditions.groups.length = 3 ∧
      (((ofValue (.object [("k", .array [])])).moveTo [.field "k"]).whereSet gappedSet).get.result =
        .error (.conditionNotAllowed "~=") := by
  -- A document has been opened, and two steps have been taken.
  have reachable : openBehind.Reachable := .step (.step (.opened _) _) _
  obtain ⟨groups, later, new⟩ := whereSet_splices reachable gappedSet
  refine ⟨reachable, groups, ?_, ?_⟩
  · rw [later, groups]
    rfl
  · exact new (.ofValue (.object [("k", .array [])])) [.field "k"] (.array []) rfl

end Session

end RecordFilter
