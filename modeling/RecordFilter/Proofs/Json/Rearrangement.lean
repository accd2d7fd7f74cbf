import RecordFilter.Path
import RecordFilter.Proofs.Json.Agreement

/-! Documents that differ in the order of members at any depth agree with the same documents and
have like children. -/

namespace RecordFilter

namespace Json

/-- Documents of which one becomes the other when members change
their order, in whatever objects. -/
inductive Rearranged : Json → Json → Prop
  /-- Nothing changes. -/
  | same (value : Json) : Rearranged value value
  /-- One change after another. -/
  | further {first second third : Json} (one : Rearranged first second)
      (more : Rearranged second third) : Rearranged first third
  /-- The members of an object change their order. -/
  | members {members others : List (String × Json)} (perm : members.Perm others) :
      Rearranged (object members) (object others)
  /-- An item of an array changes inside. -/
  | inItem (front back : List Json) {item other : Json} (inner : Rearranged item other) :
      Rearranged (array (front ++ item :: back)) (array (front ++ other :: back))
  /-- The value of a member changes inside. -/
  | inMember (front back : List (String × Json)) (key : String) {value other : Json}
      (inner : Rearranged value other) :
      Rearranged (object (front ++ (key, value) :: back)) (object (front ++ (key, other) :: back))

variable {left right other : Json}

/-- A document stays without repeated keys, however its members are rearranged. -/
theorem Rearranged.keysUnique (rearranged : Rearranged left right) (unique : left.KeysUnique) :
    right.KeysUnique := by
  -- The induction is on how the one document becomes the other, one change after another.
  induction rearranged with
  | same => exact unique
  | further _ _ first second => exact second (first unique)
  | members perm =>
    constructor
    · exact (perm.map Prod.fst).nodup_iff.mp unique.1
    · apply membersEverywhere_iff.mpr
      intro member inside
      exact membersEverywhere_iff.mp unique.2 member (perm.mem_iff.mpr inside)
  | inItem front back inner ih =>
    refine ⟨trivial, itemsEverywhere_iff.mpr ?_⟩
    have each := itemsEverywhere_iff.mp unique.2
    simp only [List.forall_mem_append, List.forall_mem_cons] at each ⊢
    exact ⟨each.1, ih each.2.1, each.2.2⟩
  | inMember front back key inner ih =>
    -- The keys stay what they are, so only the value that changes has to be looked into.
    refine ⟨by simpa [KeysDiffer] using unique.1, membersEverywhere_iff.mpr ?_⟩
    have each := membersEverywhere_iff.mp unique.2
    simp only [List.forall_mem_append, List.forall_mem_cons] at each ⊢
    exact ⟨each.1, ih each.2.1, each.2.2⟩

/-- A member is found by its key in whatever order the members stand. -/
theorem find?_of_perm {members others : List (String × Json)}
    (unique : (members.map Prod.fst).Nodup) (perm : members.Perm others) (key : String) :
    find? key members = find? key others := by
  have uniqueOthers : (others.map Prod.fst).Nodup := (perm.map Prod.fst).nodup_iff.mp unique
  apply Option.ext
  intro value
  -- On either side a value is found exactly when there is a member of it.
  constructor
  · intro found
    exact find?_of_mem uniqueOthers (perm.mem_iff.mp (mem_of_find? found))
  · intro found
    exact find?_of_mem unique (perm.mem_iff.mpr (mem_of_find? found))

/-- A member that changes its value is found with the new one, and all others as before. -/
theorem find?_replaced (front back : List (String × Json)) (name : String) (value new : Json)
    (key : String) :
    find? key (front ++ (name, value) :: back) = find? key (front ++ (name, new) :: back) ∨
      find? key (front ++ (name, value) :: back) = some value ∧
        find? key (front ++ (name, new) :: back) = some new := by
  induction front with
  | nil =>
    -- The first member with the key is found, on either side.
    by_cases same : name = key
    · exact .inr (by simp [find?, same])
    · exact .inl (by simp [find?, same])
  | cons member rest ih =>
    obtain ⟨first, found⟩ := member
    by_cases same : first = key
    · exact .inl (by simp [find?, same])
    · simpa [find?, same] using ih

/-- A step asks every object for the same key. -/
theorem exists_child_object (segment : Segment) :
    ∃ key, ∀ members, (object members).child segment = find? key members := by
  cases segment with
  | field name => exact ⟨name, fun _ => rfl⟩
  -- A position is looked up as the key that is written like it.
  | index position => exact ⟨(Segment.index position).text, fun _ => rfl⟩

/-- A step asks every array for the same position, if for any. -/
theorem exists_child_array (segment : Segment) :
    ∃ position : Option Nat, ∀ items : List Json,
      (array items).child segment = position.bind fun place => items[place]? := by
  cases segment with
  | field name => exact ⟨position? name, fun _ => rfl⟩
  | index position => exact ⟨some position, fun _ => rfl⟩

/-- An item that changes is found as the new one in its place, and all others as before. -/
theorem getElem?_replaced (front back : List Json) (item new : Json) (place : Nat) :
    (front ++ item :: back)[place]? = (front ++ new :: back)[place]? ∨
      (front ++ item :: back)[place]? = some item ∧ (front ++ new :: back)[place]? = some new := by
  induction front generalizing place with
  | nil =>
    cases place with
    | zero => exact .inr ⟨rfl, rfl⟩
    | succ place => exact .inl rfl
  | cons first rest ih =>
    cases place with
    | zero => exact .inl rfl
    | succ place => simpa using ih place

/-- A part of a document, which may be missing, is a rearrangement of itself. -/
theorem rel_same (found : Option Json) : Option.Rel Rearranged found found := by
  cases found with
  | none => exact .none
  | some value => exact .some (.same value)

/-- Parts of documents, which may be missing, are rearranged one after another. -/
theorem rel_further {first second third : Option Json} (one : Option.Rel Rearranged first second)
    (more : Option.Rel Rearranged second third) : Option.Rel Rearranged first third := by
  cases one with
  | none => exact more
  | some near =>
    cases more with
    | some far => exact .some (near.further far)

/-- A step leads to nothing from either of two rearranged documents, or to rearranged ones. -/
theorem Rearranged.child (rearranged : Rearranged left right) (unique : left.KeysUnique)
    (segment : Segment) : Option.Rel Rearranged (left.child segment) (right.child segment) := by
  -- A change behind another starts from a document that has no repeated keys either.
  induction rearranged with
  | same => exact rel_same _
  | further one _ first second => exact rel_further (first unique) (second (one.keysUnique unique))
  | members perm =>
    obtain ⟨key, child⟩ := exists_child_object segment
    rw [child, child, find?_of_perm unique.1 perm]
    exact rel_same _
  | inItem front back inner =>
    obtain ⟨position, child⟩ := exists_child_array segment
    rw [child, child]
    cases position with
    | none => exact .none
    | some place =>
      -- Either the step leads past the item that changes, or right to it.
      rcases getElem?_replaced front back _ _ place with same | ⟨found, changed⟩
      · rw [Option.bind_some, Option.bind_some, same]
        exact rel_same _
      · rw [Option.bind_some, Option.bind_some, found, changed]
        exact .some inner
  | inMember front back key inner =>
    obtain ⟨name, child⟩ := exists_child_object segment
    rw [child, child]
    -- Nor does it matter which member the step leads to.
    rcases find?_replaced front back key _ _ name with same | ⟨found, changed⟩
    · rw [same]
      exact rel_same _
    · rw [found, changed]
      exact .some inner

section Agreement

variable {rule : Json → Json → Bool}

/-- A rule for leaves that sees nothing of a container on its left but
what it is and how much it holds. -/
structure CountsOnly (rule : Json → Json → Bool) : Prop where
  /-- An array counts by its length. -/
  array : ∀ {left right : List Json} (other : Json), left.length = right.length →
    rule (array left) other = rule (array right) other
  /-- An object counts by the number of its members. -/
  object : ∀ {left right : List (String × Json)} (other : Json), left.length = right.length →
    rule (object left) other = rule (object right) other

/-- Items with one that changes agree with what they agreed with, if the new one does. -/
theorem agreeItems_replaced (front back : List Json) {item new : Json}
    (same : ∀ other, agree rule item other = agree rule new other) (others : List Json) :
    agreeItems rule (front ++ item :: back) others = agreeItems rule (front ++ new :: back) others := by
  -- The items in front agree as before, and lead to the one that changes.
  induction front generalizing others with
  | nil =>
    cases others with
    | nil => rfl
    | cons other rest => simp only [List.nil_append, agreeItems, same]
  | cons first more ih =>
    cases others with
    | nil => rfl
    | cons other rest => simp only [List.cons_append, agreeItems, ih]

/-- Members with one that changes agree with what they agreed with, if the new value does. -/
theorem agreeMembers_replaced (front back : List (String × Json)) (key : String) {value new : Json}
    (same : ∀ other, agree rule value other = agree rule new other)
    (others : List (String × Json)) :
    agreeMembers rule (front ++ (key, value) :: back) others =
      agreeMembers rule (front ++ (key, new) :: back) others := by
  induction front with
  | nil => simp only [List.nil_append, agreeMembers, same]
  | cons member rest ih =>
    obtain ⟨name, first⟩ := member
    simp only [List.cons_append, agreeMembers, ih]

/-- An array with an item that changes agrees with what it agreed with, if the new item does. -/
theorem agree_itemReplaced (counts : CountsOnly rule) (front back : List Json) {item new : Json}
    (same : ∀ other, agree rule item other = agree rule new other) (other : Json) :
    agree rule (array (front ++ item :: back)) other = agree rule (array (front ++ new :: back)) other := by
  cases other with
  | array others => exact agreeItems_replaced front back same others
  | _ => exact counts.array _ (by simp)

/-- An object with a member that changes agrees with what it agreed with, if the new value does. -/
theorem agree_memberReplaced (counts : CountsOnly rule) (front back : List (String × Json))
    (key : String) {value new : Json} (same : ∀ other, agree rule value other = agree rule new other)
    (other : Json) :
    agree rule (object (front ++ (key, value) :: back)) other =
      agree rule (object (front ++ (key, new) :: back)) other := by
  cases other with
  | object others =>
    simp only [agree, agreeMembers_replaced front back key same, List.length_append, List.length_cons]
  | _ => exact counts.object _ (by simp)

/-- Members agree with others in whatever order they stand. -/
theorem agreeMembers_of_perm {members moved : List (String × Json)} (perm : members.Perm moved)
    (others : List (String × Json)) :
    agreeMembers rule members others = agreeMembers rule moved others := by
  rw [Bool.eq_iff_iff, agreeMembers_iff, agreeMembers_iff]
  constructor
  · intro all member inside
    exact all member (perm.mem_iff.mpr inside)
  · intro all member inside
    exact all member (perm.mem_iff.mp inside)

/-- A rearranged document agrees with every other as before, if the rule
only counts what containers hold. -/
theorem Rearranged.agree_left (rearranged : Rearranged left right) (counts : CountsOnly rule)
    (other : Json) : agree rule left other = agree rule right other := by
  -- The other document is not fixed, since items agree with items of it.
  induction rearranged generalizing other with
  | same => rfl
  | further _ _ first second => exact (first other).trans (second other)
  | members perm =>
    cases other with
    | object others => simp only [agree, perm.length_eq, agreeMembers_of_perm perm]
    | _ => exact counts.object _ perm.length_eq
  | inItem front back inner ih => exact agree_itemReplaced counts front back ih other
  | inMember front back key inner ih => exact agree_memberReplaced counts front back key ih other

/-- Documents without repeated keys agree by a symmetric rule either way round. -/
theorem agree_comm (swap : ∀ first second, rule first second = rule second first)
    (uniqueLeft : left.KeysUnique) (uniqueRight : right.KeysUnique) :
    agree rule left right = agree rule right left := by
  rw [Bool.eq_iff_iff]
  exact ⟨agree_swap swap uniqueLeft uniqueRight, agree_swap swap uniqueRight uniqueLeft⟩

/-- Every document agrees with a rearranged one as before, under
a rule that is symmetric besides. -/
theorem Rearranged.agree_right (rearranged : Rearranged left right) (counts : CountsOnly rule)
    (swap : ∀ first second, rule first second = rule second first) (unique : left.KeysUnique)
    (uniqueOther : other.KeysUnique) : agree rule other left = agree rule other right := by
  -- The rule is turned around, where the rearranged document stands on the left.
  calc agree rule other left
    _ = agree rule left other := agree_comm swap uniqueOther unique
    _ = agree rule right other := rearranged.agree_left counts other
    _ = agree rule other right := agree_comm swap (rearranged.keysUnique unique) uniqueOther

end Agreement

end Json

end RecordFilter
