import RecordFilter.Json.Reader
import RecordFilter.Proofs.Json.NumberWriting

/-! What holds of every part of a document, such as that no object in it has a key twice. -/

namespace RecordFilter

namespace Json

mutual

/-- Whether a condition holds of a document and of everything inside it. -/
def Everywhere (holds : Json → Prop) : Json → Prop
  | array items => holds (array items) ∧ ItemsEverywhere holds items
  | object members => holds (object members) ∧ MembersEverywhere holds members
  | leaf => holds leaf

/-- Whether a condition holds everywhere inside some items. -/
def ItemsEverywhere (holds : Json → Prop) : List Json → Prop
  | [] => True
  | item :: rest => item.Everywhere holds ∧ ItemsEverywhere holds rest

/-- Whether a condition holds everywhere inside some members. -/
def MembersEverywhere (holds : Json → Prop) : List (String × Json) → Prop
  | [] => True
  | (_, value) :: rest => value.Everywhere holds ∧ MembersEverywhere holds rest

end

/-- A document that, if it is an object, has no key twice. -/
def KeysDiffer : Json → Prop
  | object members => (members.map Prod.fst).Nodup
  | _ => True

/-- A document that, if it is a double, is read back from its text. -/
def DoubleReadsBack : Json → Prop
  | number (.double value finite) => (Number.double value finite).ReadsBack
  | _ => True

/-- A document none of whose objects has a key twice, as it must
be where members are kept by key. -/
def KeysUnique : Json → Prop :=
  Everywhere KeysDiffer

/-- A document all of whose doubles are read back from their texts. -/
def DoublesReadBack : Json → Prop :=
  Everywhere DoubleReadsBack

section Members

variable {key : String} {value : Json} {members : List (String × Json)}

/-- A member with a new key goes last. -/
theorem put_of_new (new : key ∉ members.map Prod.fst) :
    put key value members = members ++ [(key, value)] := by
  induction members with
  | nil => simp [put]
  | cons member rest ih =>
    -- The first member has another key, so the new one goes on to the rest.
    simp only [List.map_cons, List.mem_cons, not_or] at new
    simp [put, Ne.symm new.1, ih new.2]

/-- Members whose keys all differ are kept as they are. -/
theorem ofMembers_of_nodup (unique : (members.map Prod.fst).Nodup) : ofMembers members = members := by
  -- The members built so far stay in front of those that are still to come.
  have general : ∀ (members built : List (String × Json)),
      ((built ++ members).map Prod.fst).Nodup →
        members.foldl (fun built member => put member.1 member.2 built) built = built ++ members := by
    intro members
    induction members with
    | nil => simp
    | cons member rest ih =>
      intro built unique
      -- The next key differs from all that were built, so its member goes behind them.
      have new : member.1 ∉ built.map Prod.fst := by
        simp only [List.map_append, List.map_cons, List.nodup_append] at unique
        intro known
        exact unique.2.2 _ known _ (by simp) rfl
      simp only [List.foldl_cons, put_of_new new]
      rw [ih _ (by simpa using unique)]
      simp
  -- At the start nothing has been built.
  exact general members [] unique

variable {holds : Json → Prop}

/-- What holds everywhere inside members holds of each of their values. -/
theorem membersEverywhere_iff :
    MembersEverywhere holds members ↔ ∀ member ∈ members, member.2.Everywhere holds := by
  induction members with
  | nil => simp [MembersEverywhere]
  | cons member rest ih =>
    obtain ⟨key, value⟩ := member
    simp [MembersEverywhere, ih]

end Members

end Json

end RecordFilter
