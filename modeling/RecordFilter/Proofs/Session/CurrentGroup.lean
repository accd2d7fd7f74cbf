import RecordFilter.Proofs.Condition.CurrentGroup
import RecordFilter.Proofs.Session.Splicing

/-! No step fails for want of a group, in a builder or in a session, whatever
builders are exchanged for others. -/

namespace RecordFilter

namespace Session

open ConditionBuilder (CurrentIsLast Proceeds Succeeds)

variable {session : Session} {checked : ConditionBuilder → Option ConditionBuilder}

/-- A session whose builder has been taken out to be changed: a new one stands in for it. -/
def taken (session : Session) : Session :=
  { session with builder := .new }

/-- Takes the builder out of a session and puts back what a change makes
of it, unless the change fails. -/
def chain? (session : Session) (change : ConditionBuilder → Option ConditionBuilder) :
    Option Session :=
  (change session.builder).map fun builder => { session.taken with builder }

section Engine

variable [Pattern.Engine]

/-- Between taking a builder out and putting another one back nothing is out of reach. -/
theorem Reachable.taken (reachable : session.Reachable) : session.taken.Reachable :=
  reachable.exchanged .new

/-- A change that succeeds is made in a session as in its builder alone. -/
theorem Reachable.chain?_eq (reachable : session.Reachable)
    {change : ConditionBuilder → ConditionBuilder} (succeeds : Succeeds checked change) :
    session.chain? checked = some (session.chain change) := by
  -- The builder of the session can be reached, so the change succeeds on it.
  rw [chain?, succeeds.eq_some reachable.builder]
  rfl

/-- What proceeds from builder to builder leads from session to session. -/
theorem Reachable.exists_chain? (reachable : session.Reachable) (proceeds : Proceeds checked) :
    ∃ after, session.chain? checked = some after ∧ after.Reachable := by
  obtain ⟨builder, found, reached⟩ := proceeds _ reachable.builder
  -- What is put back is a builder that can be reached, whatever was done to get it.
  refine ⟨session.chain fun _ => builder, ?_, reachable.exchanged reached⟩
  rw [chain?, found]
  rfl

/--
In every builder that can be reached the current group is the last one, if there is any. So no step
fails for want of a group, with whatever steps nested in it, and neither does the splicing of a set,
nor a group that is filled by exchanging the builder for any other that can be reached. It is the
same with the builder of every session that can be reached, also while it is taken out to be
changed.
-/
theorem currentGroup_isLast :
    (∀ builder : ConditionBuilder, builder.Reachable →
      builder.CurrentIsLast ∧
      (∀ step, builder.step? step = some (builder.step step)) ∧
      (∀ set, builder.splice? set = some (builder.splice set)) ∧
      ∀ build, Proceeds build →
        (∃ after, builder.whereGroup? build = some after ∧ after.Reachable) ∧
        ∃ after, builder.orWhereGroup? build = some after ∧ after.Reachable) ∧
    ∀ session : Session, session.Reachable →
      session.builder.CurrentIsLast ∧ session.taken.builder.CurrentIsLast ∧
      (∀ step, session.chain? (·.step? step) = some (session.step (.build step)).session) ∧
      (∀ set, session.chain? (·.splice? set) = some (session.step (.whereSet set)).session) ∧
      ∀ change, Proceeds change → ∃ after, session.chain? change = some after ∧ after.Reachable := by
  -- All is said of builders first, and then of sessions by the builder in them.
  refine ⟨fun builder reachable => ⟨reachable.currentIsLast, fun step => ?_, fun set => ?_,
    fun build proceeds => ⟨?_, ?_⟩⟩, fun session reachable => ⟨reachable.builder.currentIsLast,
    reachable.taken.builder.currentIsLast, fun step => ?_, fun set => ?_, fun change proceeds => ?_⟩⟩
  · exact (ConditionBuilder.succeeds_step step).eq_some reachable
  · exact (ConditionBuilder.succeeds_splice set).eq_some reachable
  · exact proceeds.whereGroup builder reachable
  · exact proceeds.orWhereGroup builder reachable
  · exact reachable.chain?_eq (ConditionBuilder.succeeds_step step)
  · exact reachable.chain?_eq (ConditionBuilder.succeeds_splice set)
  · exact reachable.exists_chain? proceeds

end Engine

/-- The builder after steps nested in a group, which leave an empty group at its end. -/
def nestedBuilder : ConditionBuilder :=
  ConditionBuilder.new.step
    (.orWhereGroup [.whereGroup [.orWhere ⟨"a", "=", .null⟩, .whereIn "b" []], .orWhereGroup []])

/-- Takes a step, and then fills a group by giving that builder back
in place of the one handed over. -/
def stepAndExchange (builder : ConditionBuilder) : Option ConditionBuilder :=
  (builder.step? (.orWhere ⟨"c", "null", .null⟩)).bind fun after =>
    after.whereGroup? fun _ => some nestedBuilder

/-- Nested in a group of its own, an exchange fails as little as the steps around it. -/
theorem currentGroup_isLast_exchanged :
    nestedBuilder.Reachable ∧ nestedBuilder.CurrentIsLast ∧ nestedBuilder.current = some 2 ∧
      nestedBuilder.step? (.whereGroup [.whereNull "d"]) =
        some (nestedBuilder.step (.whereGroup [.whereNull "d"])) ∧
      Proceeds stepAndExchange ∧
      (∃ after, nestedBuilder.orWhereGroup? stepAndExchange = some after ∧ after.Reachable) ∧
      (ofValue .null).Reachable ∧
      ∃ after, (ofValue .null).chain? stepAndExchange = some after ∧ after.Reachable := by
  obtain ⟨builders, sessions⟩ := currentGroup_isLast
  have reachable : nestedBuilder.Reachable := .step .new _
  -- To exchange the builder is to proceed, since the one that is given back can be reached.
  obtain ⟨isLast, steps, -, groups⟩ := builders _ reachable
  have exchanges : Proceeds fun _ => some nestedBuilder := fun _ _ => ⟨_, rfl, reachable⟩
  have proceeds : Proceeds stepAndExchange := by
    intro builder reached
    -- The step does not fail, and neither does the group behind it.
    obtain ⟨-, taken, -, -⟩ := builders builder reached
    obtain ⟨-, -, -, filled⟩ := builders _ (reached.step (.orWhere ⟨"c", "null", .null⟩))
    rw [stepAndExchange, taken]
    exact (filled _ exchanges).1
  have opened : (ofValue .null).Reachable := .opened _
  obtain ⟨-, -, -, -, changes⟩ := sessions _ opened
  exact ⟨reachable, isLast, rfl, steps _, proceeds, (groups _ proceeds).2, opened,
    changes _ proceeds⟩

end Session

end RecordFilter
