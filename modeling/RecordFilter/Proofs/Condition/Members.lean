import RecordFilter.Condition.Serialized
import RecordFilter.Proofs.Json.Containers

/-! A condition is found in an object exactly when each of its three members is written once,
wherever it stands. -/

namespace RecordFilter

namespace Condition

/-- The names of the members that make up a condition. -/
def memberNames : List String := ["key", "operator", "value"]

section Values

variable {α : Type} {name : String} {members : List (String × α)}

/-- The values of all members of a name. -/
def valuesOf (name : String) (members : List (String × α)) : List α :=
  (members.filter fun member => member.1 == name).map Prod.snd

/-- Without members there are no values. -/
@[simp] theorem valuesOf_nil : valuesOf name ([] : List (String × α)) = [] := rfl

/-- A member adds its value in front of those of its name, and nothing under any other name. -/
theorem valuesOf_cons {first : String} {value : α} :
    valuesOf name ((first, value) :: members) =
      if first = name then value :: valuesOf name members else valuesOf name members := by
  by_cases same : first = name <;> simp [valuesOf, same]

/-- There are as many values of a name as members. -/
theorem length_valuesOf : (valuesOf name members).length = (members.map Prod.fst).count name := by
  simp only [valuesOf, List.length_map, ← List.countP_eq_length_filter, List.count, List.countP_map,
    Function.comp_def]

/-- No value is written under a name that no member has. -/
theorem valuesOf_eq_nil (absent : name ∉ members.map Prod.fst) : valuesOf name members = [] :=
  List.length_eq_zero_iff.mp (length_valuesOf.trans (List.count_eq_zero.mpr absent))

/-- Members of other names may be mixed with any, in any order,
without a value more under a name. -/
theorem valuesOf_mixed {own others : List (String × α)} {value : α}
    (mixed : members.Perm (own ++ others)) (absent : name ∉ others.map Prod.fst)
    (single : valuesOf name own = [value]) : valuesOf name members = [value] := by
  -- Only the order of the values could change, and there is none to change in a single one.
  have same : (valuesOf name members).Perm (valuesOf name (own ++ others)) :=
    (mixed.filter _).map _
  -- The others have nothing to add.
  have split : valuesOf name (own ++ others) = valuesOf name own ++ valuesOf name others := by
    simp [valuesOf]
  rw [split, single, valuesOf_eq_nil absent, List.append_nil] at same
  exact List.perm_singleton.mp same

end Values

/-- The values of a name are read from the texts of the name. -/
theorem valuesOf_read {name : String} {members : List (String × List Char)}
    {values : List (String × Written)} (reads : List.Forall₂ Written.ReadAs members values) :
    List.Forall₂ (fun text value => Written.read text = some value) (valuesOf name members)
      (valuesOf name values) := by
  induction reads with
  | nil => exact .nil
  | cons first others ih =>
    obtain ⟨same, reads⟩ := first
    rw [valuesOf_cons, valuesOf_cons, same]
    -- The first member counts on both sides or on neither.
    split
    · exact .cons reads ih
    · exact ih

/-- There is one value of a name exactly when there is one text that it is read from. -/
theorem valuesOf_read_singleton {name : String} {written : Written}
    {members : List (String × List Char)} {values : List (String × Written)}
    (reads : List.Forall₂ Written.ReadAs members values) :
    valuesOf name values = [written] ↔
      ∃ text, valuesOf name members = [text] ∧ Written.read text = some written := by
  -- Texts and values stand against each other one by one, so one is single with the other.
  have there := @valuesOf_read name _ _ reads
  constructor
  · intro single
    rw [single] at there
    obtain ⟨text, _, textReads, none_, same⟩ := List.forall₂_cons_right_iff.mp there
    exact ⟨text, List.forall₂_nil_right_iff.mp none_ ▸ same, textReads⟩
  · intro ⟨text, single, textReads⟩
    rw [single] at there
    obtain ⟨value, _, valueReads, none_, same⟩ := List.forall₂_cons_left_iff.mp there
    obtain rfl := Option.some.inj (textReads.symm.trans valueReads)
    exact List.forall₂_nil_left_iff.mp none_ ▸ same

/-- What a place holds after some values were written for it: at most one may be, and only where
there was none. -/
inductive Filled {α : Type} (read : Written → Option α) : Option α → List Written → Option α → Prop
  /-- Nothing is written. -/
  | kept (held : Option α) : Filled read held [] held
  /-- One value is written, and denotes what is held from then on. -/
  | once {written : Written} {value : α} (denotes : read written = some value) :
      Filled read none [written] (some value)

section Filled

variable {α : Type} {read : Written → Option α} {held after : Option α} {written : Written}
  {values : List Written} {name : String} {member : String × Written}
  {members : List (String × Written)}

/-- Where nothing is written the place holds what it held. -/
@[simp] theorem filled_nil : Filled read held [] after ↔ after = held :=
  ⟨fun filled => by cases filled; rfl, fun same => same ▸ .kept _⟩

/-- A single value goes into an empty place if it denotes something. -/
@[simp] theorem filled_singleton :
    Filled read held [written] after ↔
      held = none ∧ ∃ value, read written = some value ∧ after = some value := by
  constructor
  · intro filled
    cases filled with
    | once denotes => exact ⟨rfl, _, denotes, rfl⟩
  · intro ⟨empty, value, denotes, same⟩
    exact empty ▸ same ▸ .once denotes

/-- What is written first goes into an empty place, and nothing may follow it. -/
theorem filled_cons :
    Filled read held (written :: values) after ↔
      ∃ between, Filled read held [written] between ∧ Filled read between values after := by
  constructor
  · intro filled
    cases filled with
    | once denotes => exact ⟨_, .once denotes, .kept _⟩
  · intro ⟨between, first, others⟩
    -- The place is full after the first value, so no other was written.
    cases first with
    | once denotes =>
      cases others with
      | kept => exact .once denotes

/-- An empty place comes to hold a value exactly when one is written that denotes it. -/
theorem filled_none_some {value : α} :
    Filled read none values (some value) ↔
      ∃ written, values = [written] ∧ read written = some value := by
  constructor
  · intro filled
    cases filled with
    | once denotes => exact ⟨_, rfl, denotes⟩
  · intro ⟨written, single, denotes⟩
    exact single ▸ .once denotes

/-- Members fill a place one after another. -/
theorem filled_valuesOf_cons :
    Filled read held (valuesOf name (member :: members)) after ↔
      ∃ between, Filled read held (valuesOf name [member]) between ∧
        Filled read between (valuesOf name members) after := by
  obtain ⟨first, value⟩ := member
  -- A member of another name leaves the place as it is.
  by_cases same : first = name
  · simp only [valuesOf_cons, same, if_true, valuesOf_nil]
    exact filled_cons
  · simp [valuesOf_cons, same]

end Filled

namespace Found

/-- What has been found after some members, beside what had been found before them. -/
@[mk_iff]
structure Fills (found : Found) (members : List (String × Written)) (more : Found) : Prop where
  /-- The key is a string. -/
  key : Filled stringOf? found.key (valuesOf "key" members) more.key
  /-- The operator is a string, known or not. -/
  operator : Filled stringOf? found.operator (valuesOf "operator" members) more.operator
  /-- The operand is a document that is no deeper than a set leaves room for. -/
  operand : Filled (Written.value? operandRoom) found.operand (valuesOf "value" members) more.operand

variable {found more : Found} {name : String} {written : Written} {condition : Condition}
  {members : List (String × Written)} {parts : List (List StringPart × Written)}

/-- No members make no difference to what was found. -/
theorem fills_nil : found.Fills [] more ↔ more = found := by
  cases found
  cases more
  simp [fills_iff]

/-- Members are taken in one after another. -/
theorem fills_cons {member : String × Written} :
    found.Fills (member :: members) more ↔
      ∃ between, found.Fills [member] between ∧ between.Fills members more := by
  constructor
  · intro ⟨key, operator, operand⟩
    -- Each of the three places has something of its own between the first member and the others.
    obtain ⟨_, keyFirst, keyOthers⟩ := filled_valuesOf_cons.mp key
    obtain ⟨_, operatorFirst, operatorOthers⟩ := filled_valuesOf_cons.mp operator
    obtain ⟨_, operandFirst, operandOthers⟩ := filled_valuesOf_cons.mp operand
    exact ⟨⟨_, _, _⟩, ⟨keyFirst, operatorFirst, operandFirst⟩,
      ⟨keyOthers, operatorOthers, operandOthers⟩⟩
  · intro ⟨between, first, others⟩
    exact ⟨filled_valuesOf_cons.mpr ⟨_, first.key, others.key⟩,
      filled_valuesOf_cons.mpr ⟨_, first.operator, others.operator⟩,
      filled_valuesOf_cons.mpr ⟨_, first.operand, others.operand⟩⟩

/-- An empty place takes in what is read, if anything is, and a full one takes in nothing. -/
theorem place_eq_some_iff {α : Type} {held read : Option α} {put : α → Found} :
    (if held.isSome then none else read.map put) = some more ↔
      held = none ∧ ∃ value, read = some value ∧ put value = more := by
  cases held <;> simp

/-- One member is taken in exactly when its place is empty and its
value fits, or it has no place. -/
theorem add_eq_some_iff :
    found.add name written = some more ↔ found.Fills [(name, written)] more := by
  obtain ⟨key, operator, operand⟩ := found
  obtain ⟨newKey, newOperator, newOperand⟩ := more
  -- Each of the three names has a place of its own, and all others leave every place alone.
  obtain rfl | rfl | rfl | other :
      name = "key" ∨ name = "operator" ∨ name = "value" ∨ name ∉ memberNames := by
    simp only [memberNames, List.mem_cons, List.not_mem_nil]
    tauto
  case inr.inr.inr =>
    simp only [memberNames, List.mem_cons, List.not_mem_nil, or_false, not_or] at other
    simp only [add, fills_iff, valuesOf_cons, valuesOf_nil, filled_nil, beq_iff_eq, other, if_false,
      Option.some.injEq, mk.injEq]
    grind
  all_goals
    simp only [add, fills_iff, valuesOf_cons, valuesOf_nil, filled_singleton, filled_nil,
      String.reduceBEq, String.reduceEq, Bool.false_eq_true, if_true, if_false, place_eq_some_iff,
      mk.injEq]
    grind

/-- Members are taken in exactly when they fill the places one after another. -/
theorem addAll_eq_some_iff (named : List.Forall₂ Written.Named parts members) :
    found.addAll parts = some more ↔ found.Fills members more := by
  induction named generalizing found with
  | nil => simp [addAll, fills_nil, eq_comm]
  | cons first others ih =>
    obtain ⟨decodes, same⟩ := first
    rw [fills_cons]
    -- The first member leaves what has been found to those behind it.
    simp [addAll, decodes, same, Option.bind_eq_some_iff, ih, add_eq_some_iff]

/-- A condition is complete when nothing of it is missing. -/
theorem complete?_eq_some_iff :
    found.complete? = some condition ↔
      found = ⟨some condition.key, some condition.operator, some condition.operand⟩ := by
  obtain ⟨key, operator, operand⟩ := found
  cases condition
  cases key <;> cases operator <;> cases operand <;> simp [complete?]

end Found

variable {condition : Condition}

/-- Three written values that denote the key, the operator and the operand of a condition. -/
structure Given (condition : Condition) (key operator operand : Written) : Prop where
  key : stringOf? key = some condition.key
  operator : stringOf? operator = some condition.operator
  operand : operand.value? operandRoom = some condition.operand

/-- An object denotes a condition exactly when each of the three members is written once. -/
theorem ofWritten?_object_iff {members : List (String × Written)}
    {parts : List (List StringPart × Written)} (named : List.Forall₂ Written.Named parts members) :
    ofWritten? (.object parts) = some condition ↔
      ∃ key operator operand, condition.Given key operator operand ∧
        valuesOf "key" members = [key] ∧ valuesOf "operator" members = [operator] ∧
        valuesOf "value" members = [operand] := by
  simp only [ofWritten?, Option.bind_eq_some_iff, Found.complete?_eq_some_iff,
    Found.addAll_eq_some_iff named]
  constructor
  · intro ⟨found, fills, complete⟩
    subst complete
    -- All places are empty at first, so what fills them is written once each.
    obtain ⟨key, keySingle, keyDenotes⟩ := filled_none_some.mp fills.key
    obtain ⟨operator, operatorSingle, operatorDenotes⟩ := filled_none_some.mp fills.operator
    obtain ⟨operand, operandSingle, operandDenotes⟩ := filled_none_some.mp fills.operand
    exact ⟨key, operator, operand, ⟨keyDenotes, operatorDenotes, operandDenotes⟩,
      keySingle, operatorSingle, operandSingle⟩
  · intro ⟨key, operator, operand, given, keySingle, operatorSingle, operandSingle⟩
    exact ⟨_, ⟨filled_none_some.mpr ⟨key, keySingle, given.key⟩,
      filled_none_some.mpr ⟨operator, operatorSingle, given.operator⟩,
      filled_none_some.mpr ⟨operand, operandSingle, given.operand⟩⟩, rfl⟩

/-- An array denotes a condition exactly when it has the three items in their order. -/
theorem ofWritten?_array_iff {items : List Written} :
    ofWritten? (.array items) = some condition ↔
      ∃ key operator operand, condition.Given key operator operand ∧
        items = [key, operator, operand] := by
  constructor
  · intro denotes
    unfold ofWritten? at denotes
    -- Objects and arrays of other lengths are taken by other arms.
    split at denotes
    · contradiction
    · rename_i key operator operand same
      obtain ⟨name, keyDenotes, denotes⟩ := Option.bind_eq_some_iff.mp denotes
      obtain ⟨token, operatorDenotes, denotes⟩ := Option.bind_eq_some_iff.mp denotes
      obtain ⟨value, operandDenotes, rfl⟩ := Option.map_eq_some_iff.mp denotes
      obtain rfl := Written.array.inj same
      exact ⟨key, operator, operand, ⟨keyDenotes, operatorDenotes, operandDenotes⟩, rfl⟩
    · contradiction
  · intro ⟨key, operator, operand, given, same⟩
    simp [same, ofWritten?, given.key, given.operator, given.operand]

end Condition

end RecordFilter
