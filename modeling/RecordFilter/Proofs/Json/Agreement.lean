import Mathlib.Data.List.Perm.Subperm
import RecordFilter.Proofs.Json.Containers

/-! Documents that agree by a rule for leaves: agreement is reflexive or symmetric if the rule is,
and as coarse as it. -/

namespace RecordFilter

/-- What follows for every two elements of two lists follows for those in the same place. -/
theorem forall₂_of_mem {α β : Type} {belongs follows : α → β → Prop} {left : List α}
    {right : List β} (all : List.Forall₂ belongs left right)
    (each : ∀ first ∈ left, ∀ second ∈ right, belongs first second → follows first second) :
    List.Forall₂ follows left right := by
  induction all with
  | nil => exact .nil
  | cons first others ih =>
    refine .cons (each _ List.mem_cons_self _ List.mem_cons_self first) (ih ?_)
    exact fun item inside other among =>
      each item (List.mem_cons_of_mem _ inside) other (List.mem_cons_of_mem _ among)

namespace Json

/-- A document that holds no others. -/
inductive IsLeaf : Json → Prop
  /-- Null. -/
  | null : IsLeaf null
  /-- A truth value. -/
  | bool (value : Bool) : IsLeaf (bool value)
  /-- A number. -/
  | number (value : Number) : IsLeaf (number value)
  /-- A string. -/
  | string (text : String) : IsLeaf (string text)

/-- What holds of leaves, and of every container that it holds inside
of, holds of every document. -/
theorem inductionOn {motive : Json → Prop} (value : Json)
    (leaf : ∀ value, IsLeaf value → motive value)
    (array : ∀ items, (∀ item ∈ items, motive item) → motive (array items))
    (object : ∀ members, (∀ member ∈ members, motive member.2) → motive (object members)) :
    motive value := by
  -- Lists of items and of members are recursed into, so each has a motive of its own.
  refine Json.rec (motive_1 := motive) (motive_2 := fun items => ∀ item ∈ items, motive item)
    (motive_3 := fun members => ∀ member ∈ members, motive member.2)
    (motive_4 := fun member => motive member.2) ?null ?bool ?number ?string array object
    ?noItems ?items ?noMembers ?members ?member value
  case null => exact leaf _ .null
  case bool => exact fun value => leaf _ (.bool value)
  case number => exact fun value => leaf _ (.number value)
  case string => exact fun text => leaf _ (.string text)
  case noItems => simp
  case items => exact fun _ _ first others => List.forall_mem_cons.mpr ⟨first, others⟩
  case noMembers => simp
  case members => exact fun _ _ first others => List.forall_mem_cons.mpr ⟨first, others⟩
  case member => exact fun _ _ inside => inside

section Members

variable {key : String} {value : Json} {members : List (String × Json)}

/-- A member that is found is one of the members. -/
theorem mem_of_find? (found : find? key members = some value) : (key, value) ∈ members := by
  induction members with
  | nil => contradiction
  | cons member rest ih =>
    obtain ⟨name, first⟩ := member
    -- Either the first member was found, or one behind it.
    by_cases same : name = key
    · simp_all [find?]
    · exact List.mem_cons_of_mem _ (ih (by simpa [find?, same] using found))

/-- Every member is found by its key if no key comes twice. -/
theorem find?_of_mem (unique : (members.map Prod.fst).Nodup) (inside : (key, value) ∈ members) :
    find? key members = some value := by
  induction members with
  | nil => contradiction
  | cons member rest ih =>
    obtain ⟨name, first⟩ := member
    obtain ⟨new, uniqueRest⟩ := List.nodup_cons.mp unique
    -- The member is the first one, or lies behind it.
    rcases List.mem_cons.mp inside with same | later
    · simp_all [find?]
    · -- The first member has another key, so it does not hide this one.
      have differs : name ≠ key := by
        rintro rfl
        exact new (List.mem_map.mpr ⟨_, later, rfl⟩)
      simpa [find?, differs] using ih uniqueRest later

end Members

variable {rule coarser : Json → Json → Bool}

/-- Items agree if there are as many on either side, and each agrees with that in its place. -/
theorem agreeItems_iff {left right : List Json} :
    agreeItems rule left right = true ↔
      List.Forall₂ (fun first second => agree rule first second = true) left right := by
  induction left generalizing right with
  | nil => cases right <;> simp [agreeItems]
  | cons item rest ih => cases right <;> simp [agreeItems, ih]

/-- Members agree with others if each agrees with one that is found by its key. -/
theorem agreeMembers_iff {members others : List (String × Json)} :
    agreeMembers rule members others = true ↔ ∀ member ∈ members,
      ∃ value, find? member.1 others = some value ∧ agree rule member.2 value = true := by
  induction members with
  | nil => simp [agreeMembers]
  | cons member rest ih =>
    obtain ⟨key, value⟩ := member
    cases found : find? key others <;> simp [agreeMembers, ih, found]

/-- A leaf agrees with whatever the rule says, on either side. -/
theorem agree_leaf {left right : Json} (isLeaf : IsLeaf left) :
    agree rule left right = rule left right ∧ agree rule right left = rule right left := by
  cases isLeaf <;> cases right <;> exact ⟨rfl, rfl⟩

/-- Every document agrees with itself by a rule under which every leaf does. -/
theorem agree_self {value : Json} (unique : value.KeysUnique)
    (same : ∀ leaf, IsLeaf leaf → rule leaf leaf = true) : agree rule value value = true := by
  induction value using inductionOn with
  | leaf value isLeaf => cases isLeaf <;> exact same _ (by constructor)
  | array items ih =>
    -- The keys are unique inside of every item as well.
    have each := itemsEverywhere_iff.mp unique.2
    exact agreeItems_iff.mpr (List.forall₂_same.mpr fun item inside => ih item inside (each item inside))
  | object members ih =>
    have each := membersEverywhere_iff.mp unique.2
    simp only [agree, beq_self_eq_true, Bool.true_and]
    -- Each member is found by its key, since no other has that key.
    exact agreeMembers_iff.mpr fun member inside =>
      ⟨member.2, find?_of_mem unique.1 inside, ih member inside (each member inside)⟩

/-- Among as many members with keys that differ, all keys are found if those of the others are. -/
theorem mem_keys_of_length {members others : List (String × Json)}
    (unique : (members.map Prod.fst).Nodup) (length : members.length = others.length)
    (known : ∀ member ∈ members, member.1 ∈ others.map Prod.fst) :
    ∀ other ∈ others, other.1 ∈ members.map Prod.fst := by
  have subset : members.map Prod.fst ⊆ others.map Prod.fst := by
    intro key inside
    obtain ⟨member, given, rfl⟩ := List.mem_map.mp inside
    exact known member given
  -- Different keys that are all among others, and no fewer than those, are the same keys.
  have perm : (members.map Prod.fst).Perm (others.map Prod.fst) :=
    (unique.subperm subset).perm_of_length_le (by simp [length])
  intro other inside
  exact perm.mem_iff.mpr (List.mem_map_of_mem inside)

/-- Members with keys that differ agree with as many others both ways, if their values do. -/
theorem agreeMembers_swap {members others : List (String × Json)}
    (uniqueLeft : (members.map Prod.fst).Nodup) (uniqueRight : (others.map Prod.fst).Nodup)
    (length : members.length = others.length)
    (each : ∀ member ∈ members, ∀ other ∈ others,
      agree rule member.2 other.2 = true → agree rule other.2 member.2 = true)
    (agreed : agreeMembers rule members others = true) : agreeMembers rule others members = true := by
  have agreed := agreeMembers_iff.mp agreed
  -- Every key on the left is a key on the right, since it is found there.
  have known : ∀ member ∈ members, member.1 ∈ others.map Prod.fst := by
    intro member inside
    obtain ⟨value, found, _⟩ := agreed member inside
    exact List.mem_map.mpr ⟨_, mem_of_find? found, rfl⟩
  refine agreeMembers_iff.mpr ?_
  rintro ⟨name, wanted⟩ among
  -- The name is known on the left, and the member that has it there leads back to this one.
  obtain ⟨⟨key, value⟩, inside, same⟩ :=
    List.mem_map.mp (mem_keys_of_length uniqueLeft length known _ among)
  obtain rfl : key = name := same
  obtain ⟨partner, found, agrees⟩ := agreed _ inside
  rw [find?_of_mem uniqueRight among] at found
  obtain rfl := Option.some.inj found
  exact ⟨value, find?_of_mem uniqueLeft inside, each _ inside _ among agrees⟩

/-- Documents that agree by a symmetric rule also agree the other way round. -/
theorem agree_swap (swap : ∀ first second, rule first second = rule second first)
    {left right : Json} (uniqueLeft : left.KeysUnique) (uniqueRight : right.KeysUnique)
    (agreed : agree rule left right = true) : agree rule right left = true := by
  induction left using inductionOn generalizing right with
  | leaf left isLeaf =>
    rw [(agree_leaf isLeaf).1] at agreed
    rw [(agree_leaf isLeaf).2, swap, agreed]
  | array items ih =>
    cases right with
    | array others =>
      have eachLeft := itemsEverywhere_iff.mp uniqueLeft.2
      have eachRight := itemsEverywhere_iff.mp uniqueRight.2
      -- Whatever item stands in whatever place, it agrees the other way round.
      have swapped := forall₂_of_mem (agreeItems_iff.mp agreed) fun item inside other among agrees =>
        ih item inside (eachLeft item inside) (eachRight other among) agrees
      exact agreeItems_iff.mpr swapped.flip
    -- A container and something of another kind are compared by the rule.
    | _ => exact (swap _ _).trans agreed
  | object members ih =>
    cases right with
    | object others =>
      have eachLeft := membersEverywhere_iff.mp uniqueLeft.2
      have eachRight := membersEverywhere_iff.mp uniqueRight.2
      simp only [agree, Bool.and_eq_true, beq_iff_eq] at agreed ⊢
      refine ⟨agreed.1.symm, agreeMembers_swap uniqueLeft.1 uniqueRight.1 agreed.1 ?_ agreed.2⟩
      exact fun member inside other among agrees =>
        ih member inside (eachLeft member inside) (eachRight other among) agrees
    | _ => exact (swap _ _).trans agreed

/-- Documents that agree by a rule agree by every coarser one. -/
theorem agree_of_imp (imp : ∀ first second, rule first second = true → coarser first second = true)
    {left right : Json} (agreed : agree rule left right = true) : agree coarser left right = true := by
  induction left using inductionOn generalizing right with
  | leaf left isLeaf =>
    rw [(agree_leaf isLeaf).1] at agreed ⊢
    exact imp _ _ agreed
  | array items ih =>
    cases right with
    | array others =>
      -- Item by item, and member by member below, the coarser rule follows.
      exact agreeItems_iff.mpr (forall₂_of_mem (agreeItems_iff.mp agreed)
        fun item inside _ _ agreed => ih item inside agreed)
    | _ => exact imp _ _ agreed
  | object members ih =>
    cases right with
    | object others =>
      simp only [agree, Bool.and_eq_true, beq_iff_eq] at agreed ⊢
      refine ⟨agreed.1, agreeMembers_iff.mpr fun member inside => ?_⟩
      obtain ⟨value, found, agrees⟩ := agreeMembers_iff.mp agreed.2 member inside
      exact ⟨value, found, ih member inside agrees⟩
    | _ => exact imp _ _ agreed

end Json

end RecordFilter
