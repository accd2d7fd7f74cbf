import RecordFilter.Proofs.Condition.Members

/-! A set is read back from its text, and from every text in which
its conditions take other forms. -/

namespace RecordFilter

/-- A form of a condition, with the texts of the values in it. -/
inductive ConditionForm
  /-- An object with members of the given names. -/
  | object (members : List (String × List Char))
  /-- An array. -/
  | array (items : List (List Char))

namespace ConditionForm

/-- The text of a form. -/
def text : ConditionForm → List Char
  | object members => Json.objectText members
  | array items => Json.arrayText items

/-- The texts of the values in a form. -/
def values : ConditionForm → List (List Char)
  | object members => members.map Prod.snd
  | array items => items

/-- Whether all values in a form are documents. -/
def Valid (form : ConditionForm) : Prop :=
  ∀ text ∈ form.values, Json.IsText text

/-- The condition that the text of a form is read as, if it is. -/
def condition? (form : ConditionForm) : Option Condition :=
  (Written.read form.text).bind Condition.ofWritten?

/-- A form in which one of the three members is missing or repeated, or that has not three items. -/
inductive Defective : ConditionForm → Prop
  /-- A member is left out. -/
  | missing {members : List (String × List Char)} {name : String}
      (named : name ∈ Condition.memberNames) (absent : name ∉ members.map Prod.fst) :
      Defective (object members)
  /-- A member is written again, with the same value or another. -/
  | repeated {members : List (String × List Char)} {name : String}
      (named : name ∈ Condition.memberNames) (again : 2 ≤ (members.map Prod.fst).count name) :
      Defective (object members)
  /-- There are fewer items than three or more. -/
  | miscounted {items : List (List Char)} (length : items.length ≠ 3) : Defective (array items)

/-- The three texts that stand in a form for a key, an operator and an operand. -/
def Gives : ConditionForm → List Char → List Char → List Char → Prop
  | object members, key, operator, operand =>
    Condition.valuesOf "key" members = [key] ∧
      Condition.valuesOf "operator" members = [operator] ∧
      Condition.valuesOf "value" members = [operand]
  | array items, key, operator, operand => items = [key, operator, operand]

end ConditionForm

namespace Condition

/-- The members of a condition, with the compact texts of their values. -/
def members (condition : Condition) : List (String × List Char) :=
  [("key", Json.quote condition.key), ("operator", Json.quote condition.operator),
    ("value", condition.operand.write)]

/-- The forms of a condition. -/
inductive HasForm (condition : Condition) : ConditionForm → Prop
  /-- The members in any order, with members of other names in front of them, between and behind. -/
  | object {members others : List (String × List Char)}
      (mixed : members.Perm (condition.members ++ others))
      (unnamed : ∀ name ∈ memberNames, name ∉ others.map Prod.fst)
      (valid : ∀ text ∈ others.map Prod.snd, Json.IsText text) : HasForm condition (.object members)
  /-- The values in the order of the members. -/
  | array : HasForm condition (.array (condition.members.map Prod.snd))

/-- The compact text of a condition is that of the object of its members. -/
theorem write_toJson (condition : Condition) :
    condition.toJson.write = (ConditionForm.object condition.members).text := by
  simp [toJson, members, ConditionForm.text, Json.objectText, Json.memberText, Json.write,
    Json.writeMembers, List.intercalate_cons_cons]

/-- Three texts that are read as the key, the operator and the operand of a condition. -/
def WrittenAs (condition : Condition) (keyText operatorText operandText : List Char) : Prop :=
  ∃ key operator operand, condition.Given key operator operand ∧
    Written.read keyText = some key ∧ Written.read operatorText = some operator ∧
    Written.read operandText = some operand

/-- A condition whose operand a set has room for and a reader recovers. -/
structure Storable (condition : Condition) : Prop where
  nesting : condition.operand.depth ≤ operandRoom
  unique : condition.operand.KeysUnique
  doubles : condition.operand.DoublesReadBack

variable {condition : Condition} {form : ConditionForm}

/-- The texts that a condition is printed with are read as its parts. -/
theorem Storable.writtenAs (storable : condition.Storable) :
    condition.WrittenAs (Json.quote condition.key) (Json.quote condition.operator)
      condition.operand.write := by
  obtain ⟨key, _, keySpelled, keyDenotes, keyQuoted⟩ := StringPart.exists_quote condition.key
  obtain ⟨operator, _, operatorSpelled, operatorDenotes, operatorQuoted⟩ :=
    StringPart.exists_quote condition.operator
  obtain ⟨operand, operandSpelled, operandDenotes⟩ :=
    Json.exists_written storable.unique storable.doubles storable.nesting
  -- Any string can be quoted, whereas the operand has to be one that its text gives back.
  exact ⟨.string key, .string operator, operand,
    ⟨keyDenotes, operatorDenotes, operandDenotes⟩,
    keyQuoted ▸ (Written.Spelled.string keySpelled).read_eq,
    operatorQuoted ▸ (Written.Spelled.string operatorSpelled).read_eq, operandSpelled.read_eq⟩

/-- Members whose values are documents are read, each under its name. -/
theorem exists_readAs {members : List (String × List Char)}
    (valid : (ConditionForm.object members).Valid) :
    ∃ values, List.Forall₂ Written.ReadAs members values := by
  refine exists_forall₂ fun member inside => ?_
  obtain ⟨written, reads⟩ := valid member.2 (List.mem_map_of_mem inside)
  exact ⟨(member.1, written), rfl, reads⟩

/-- A form of documents is a document itself. -/
theorem isText_of_valid (valid : form.Valid) : Json.IsText form.text := by
  cases form with
  | object members =>
    obtain ⟨values, reads⟩ := exists_readAs valid
    obtain ⟨parts, _, objectReads⟩ := Written.exists_read_objectText reads
    exact ⟨.object parts, objectReads⟩
  | array items =>
    obtain ⟨written, reads⟩ : ∃ written,
        List.Forall₂ (fun text item => Written.read text = some item) items written :=
      exists_forall₂ valid
    exact ⟨.array written, Written.read_arrayText reads⟩

/-- A form is read as a condition exactly when it gives texts that are
read as the parts of the condition. -/
theorem condition?_eq_some_iff (valid : form.Valid) :
    form.condition? = some condition ↔
      ∃ key operator operand, form.Gives key operator operand ∧
        condition.WrittenAs key operator operand := by
  cases form with
  | object members =>
    obtain ⟨values, reads⟩ := exists_readAs valid
    obtain ⟨parts, named, objectReads⟩ := Written.exists_read_objectText reads
    rw [ConditionForm.condition?, ConditionForm.text, objectReads, Option.bind_some,
      ofWritten?_object_iff named]
    -- A single value of a name is read from a single text of it, so both sides ask for the same.
    simp only [valuesOf_read_singleton reads]
    constructor
    · intro ⟨key, operator, operand, given, ⟨keyText, keyOnce, keyReads⟩,
        ⟨operatorText, operatorOnce, operatorReads⟩, operandText, operandOnce, operandReads⟩
      exact ⟨keyText, operatorText, operandText, ⟨keyOnce, operatorOnce, operandOnce⟩,
        key, operator, operand, given, keyReads, operatorReads, operandReads⟩
    · intro ⟨keyText, operatorText, operandText, ⟨keyOnce, operatorOnce, operandOnce⟩,
        key, operator, operand, given, keyReads, operatorReads, operandReads⟩
      exact ⟨key, operator, operand, given, ⟨keyText, keyOnce, keyReads⟩,
        ⟨operatorText, operatorOnce, operatorReads⟩, operandText, operandOnce, operandReads⟩
  | array items =>
    obtain ⟨written, reads⟩ : ∃ written,
        List.Forall₂ (fun text item => Written.read text = some item) items written :=
      exists_forall₂ valid
    rw [ConditionForm.condition?, ConditionForm.text, Written.read_arrayText reads,
      Option.bind_some, ofWritten?_array_iff]
    constructor
    · intro ⟨key, operator, operand, given, three⟩
      subst three
      match reads with
      | .cons keyReads (.cons operatorReads (.cons operandReads .nil)) =>
        exact ⟨_, _, _, rfl, key, operator, operand, given, keyReads, operatorReads, operandReads⟩
    · intro ⟨_, _, _, three, key, operator, operand, given, keyReads, operatorReads, operandReads⟩
      -- A text is read as one document only, so the items are those three.
      subst three
      have again : List.Forall₂ (fun text item => Written.read text = some item) _
          [key, operator, operand] :=
        .cons keyReads (.cons operatorReads (.cons operandReads .nil))
      have only : Relator.RightUnique fun text item => Written.read text = some item :=
        fun _ _ _ one other => Option.some.inj (one.symm.trans other)
      exact ⟨key, operator, operand, given, List.right_unique_forall₂' only reads again⟩

/-- Every form of a condition gives the texts that the condition is printed with. -/
theorem HasForm.gives (has : condition.HasForm form) :
    form.Gives (Json.quote condition.key) (Json.quote condition.operator)
      condition.operand.write := by
  cases has with
  | object mixed unnamed =>
    -- Neither the order nor the other members change what is written under the three names.
    exact ⟨valuesOf_mixed mixed (unnamed _ (by simp [memberNames])) rfl,
      valuesOf_mixed mixed (unnamed _ (by simp [memberNames])) rfl,
      valuesOf_mixed mixed (unnamed _ (by simp [memberNames])) rfl⟩
  | array => rfl

/-- Every form of a condition is made of documents. -/
theorem HasForm.valid (has : condition.HasForm form) (storable : condition.Storable) :
    form.Valid := by
  have own : ∀ text ∈ condition.members.map Prod.snd, Json.IsText text := by
    obtain ⟨key, operator, operand, _, keyReads, operatorReads, operandReads⟩ := storable.writtenAs
    simp [members, Json.IsText, *]
  cases has with
  | object mixed unnamed valid =>
    intro text inside
    -- A value is either one of the condition itself or one of another member.
    have moved := (mixed.map Prod.snd).mem_iff.mp inside
    rw [List.map_append, List.mem_append] at moved
    exact moved.elim (own text) (valid text)
  | array => exact own

/-- Every form of a condition is read as the condition. -/
theorem HasForm.read (has : condition.HasForm form) (storable : condition.Storable) :
    form.condition? = some condition :=
  (condition?_eq_some_iff (has.valid storable)).mpr ⟨_, _, _, has.gives, storable.writtenAs⟩

/-- An object that gives three texts has each of the three members once. -/
theorem count_of_gives {members : List (String × List Char)} {name : String}
    {key operator operand : List Char}
    (gives : (ConditionForm.object members).Gives key operator operand)
    (named : name ∈ memberNames) : (members.map Prod.fst).count name = 1 := by
  obtain ⟨keyOnce, operatorOnce, operandOnce⟩ := gives
  -- A member counts as often as a value is written under its name.
  rw [← length_valuesOf]
  simp only [memberNames, List.mem_cons, List.not_mem_nil, or_false] at named
  rcases named with rfl | rfl | rfl <;> simp [*]

/-- A defective form gives no three texts. -/
theorem not_gives_of_defective (defective : form.Defective) {key operator operand : List Char} :
    ¬form.Gives key operator operand := by
  intro gives
  cases defective with
  | missing named absent =>
    have once := count_of_gives gives named
    rw [List.count_eq_zero.mpr absent] at once
    contradiction
  | repeated named again =>
    have once := count_of_gives gives named
    omega
  | miscounted length => exact length (gives ▸ rfl)

/-- No condition is read from a defective form. -/
theorem condition?_defective (defective : form.Defective) (valid : form.Valid) :
    form.condition? = none := by
  refine Option.eq_none_iff_forall_ne_some.mpr ?_
  intro condition denotes
  -- A condition would need the three texts that the form does not give.
  obtain ⟨_, _, _, gives, _⟩ := (condition?_eq_some_iff valid).mp denotes
  exact not_gives_of_defective defective gives

end Condition

namespace ConditionSet

/-- The text of a group whose conditions have the given forms. -/
def groupText (forms : List ConditionForm) : List Char :=
  Json.arrayText (forms.map ConditionForm.text)

/-- The text of a set whose conditions have the given forms. -/
def formsText (groups : List (List ConditionForm)) : List Char :=
  Json.arrayText (groups.map groupText)

variable {set : ConditionSet}

/-- The compact text of a set is the one in which all conditions are objects of their members. -/
theorem write_toJson : set.toJson.write =
    formsText (set.groups.map (List.map fun condition => .object condition.members)) := by
  simp [toJson, formsText, groupText, Json.write_array, Condition.write_toJson, Function.comp_def]

/-- What a set as a document promises of its depth, its keys and its doubles, its operands keep. -/
theorem storable_of_mem (nesting : set.toJson.depth ≤ Json.nestingLimit)
    (unique : set.toJson.KeysUnique) (doubles : set.toJson.DoublesReadBack)
    {group : ConditionGroup} (inSet : group ∈ set.groups) {condition : Condition}
    (inGroup : condition ∈ group) : condition.Storable := by
  have groupInside : Json.array (group.map Condition.toJson) ∈
      set.groups.map fun group => .array (group.map Condition.toJson) :=
    List.mem_map_of_mem inSet
  have inside : condition.toJson ∈ group.map Condition.toJson := List.mem_map_of_mem inGroup
  -- What holds everywhere in the set holds in the group, and so in the condition and its operand.
  have operandKeeps : ∀ {holds : Json → Prop}, set.toJson.Everywhere holds →
      condition.operand.Everywhere holds := by
    intro holds everywhere
    have ofGroup := Json.itemsEverywhere_iff.mp everywhere.2 _ groupInside
    have ofCondition := Json.itemsEverywhere_iff.mp ofGroup.2 _ inside
    exact ofCondition.2.2.2.1
  refine ⟨?_, operandKeeps unique, operandKeeps doubles⟩
  -- Three containers lie around the operand: the set, the group and the condition.
  have groupFits := Json.depth_le_itemsDepth groupInside
  have conditionFits := Json.depth_le_itemsDepth inside
  have operandFits : condition.operand.depth + 1 ≤ condition.toJson.depth := by
    simp [Condition.toJson, Json.depth, Json.membersDepth]
  simp only [toJson, Json.depth] at nesting groupFits
  simp only [Condition.operandRoom]
  omega

/-- The group that the text of some forms is read as, if it is. -/
def group? (forms : List ConditionForm) : Option ConditionGroup :=
  (Written.read (groupText forms)).bind groupOfWritten?

/-- A group is read form by form. -/
theorem group?_eq_mapM {forms : List ConditionForm} (valid : ∀ form ∈ forms, form.Valid) :
    group? forms = forms.mapM ConditionForm.condition? := by
  obtain ⟨written, reads, denotes⟩ := Written.exists_array
    (fun form inside => Condition.isText_of_valid (valid form inside)) Condition.ofWritten?
  rw [group?, groupText, reads, Option.bind_some, groupOfWritten?, denotes]
  rfl

/-- A set is read group by group. -/
theorem deserialize_eq_mapM {forms : List (List ConditionForm)}
    (valid : ∀ group ∈ forms, ∀ form ∈ group, form.Valid) :
    deserialize (formsText forms) = (forms.mapM group?).map ConditionSet.mk := by
  -- Groups of documents are documents, whether any conditions are found in them or not.
  have texts : ∀ group ∈ forms, Json.IsText (groupText group) := by
    intro group inSet
    obtain ⟨written, reads, _⟩ := Written.exists_array
      (fun form inside => Condition.isText_of_valid (valid group inSet form inside))
      Condition.ofWritten?
    exact ⟨.array written, reads⟩
  obtain ⟨written, reads, denotes⟩ := Written.exists_array texts groupOfWritten?
  rw [deserialize, formsText, reads, Option.bind_some, ofWritten?, denotes]
  rfl

/-- A group is read from any forms of its conditions, which are all made of documents. -/
theorem group?_of_hasForm {group : ConditionGroup} {forms : List ConditionForm}
    (storable : ∀ condition ∈ group, condition.Storable)
    (hasForms : List.Forall₂ Condition.HasForm group forms) :
    (∀ form ∈ forms, form.Valid) ∧ group? forms = some group := by
  -- Each condition is stored together with its form, which then is read back on its own.
  have stored := (List.forall₂_and_left group forms).mpr ⟨storable, hasForms⟩
  have valid : ∀ form ∈ forms, form.Valid :=
    forall_of_forall₂ stored fun _ _ both => both.2.valid both.1
  have reads : List.Forall₂ (fun form condition => form.condition? = some condition) forms group :=
    (stored.imp fun _ _ both => both.2.read both.1).flip
  exact ⟨valid, by rw [group?_eq_mapM valid, mapM_eq_some_iff.mpr reads]⟩

/-- A set is read from any forms of the conditions in its groups. -/
theorem deserialize_of_hasForm {forms : List (List ConditionForm)}
    (storable : ∀ group ∈ set.groups, ∀ condition ∈ group, condition.Storable)
    (hasForms : List.Forall₂ (List.Forall₂ Condition.HasForm) set.groups forms) :
    deserialize (formsText forms) = some set := by
  have stored := (List.forall₂_and_left set.groups forms).mpr ⟨storable, hasForms⟩
  have valid : ∀ group ∈ forms, ∀ form ∈ group, form.Valid :=
    forall_of_forall₂ stored fun _ _ both => (group?_of_hasForm both.1 both.2).1
  have reads : List.Forall₂ (fun forms group => group? forms = some group) forms set.groups :=
    (stored.imp fun _ _ both => (group?_of_hasForm both.1 both.2).2).flip
  rw [deserialize_eq_mapM valid, mapM_eq_some_iff.mpr reads, Option.map_some]

/-- No set is read from forms of which one is defective, whatever the others are. -/
theorem deserialize_defective {forms : List (List ConditionForm)}
    (valid : ∀ group ∈ forms, ∀ form ∈ group, form.Valid) {group : List ConditionForm}
    (inSet : group ∈ forms) {form : ConditionForm} (inGroup : form ∈ group)
    (defective : form.Defective) : deserialize (formsText forms) = none := by
  have lost : form.condition? = none :=
    Condition.condition?_defective defective (valid group inSet form inGroup)
  -- The condition takes its group with it, and the group the set.
  have groupLost : group? group = none := by
    rw [group?_eq_mapM (valid group inSet), mapM_eq_none_of_mem inGroup lost]
  rw [deserialize_eq_mapM valid, mapM_eq_none_of_mem inSet groupLost, Option.map_none]

/--
A set whose document nests no deeper than the reader follows, and whose doubles read back, is read
back from its compact text, whatever keys and operators it has. It is also read from every text of
its groups in which each condition is either an object of its three members in any order, among any
members of other names whose values are documents, or an array of its three values. No set is read
from such a text once a condition in it lacks one of the three members, repeats one, or is an array
of another length. That no object in an operand has a key twice is so by itself, because members are
kept by key.
-/
theorem deserialize_forms (set : ConditionSet) (nesting : set.toJson.depth ≤ Json.nestingLimit)
    (unique : set.toJson.KeysUnique) (doubles : set.toJson.DoublesReadBack) :
    deserialize set.toJson.write = some set ∧
    (∀ forms, List.Forall₂ (List.Forall₂ Condition.HasForm) set.groups forms →
      deserialize (formsText forms) = some set) ∧
    ∀ forms : List (List ConditionForm), (∀ group ∈ forms, ∀ form ∈ group, form.Valid) →
      (∃ group ∈ forms, ∃ form ∈ group, form.Defective) → deserialize (formsText forms) = none := by
  have storable : ∀ group ∈ set.groups, ∀ condition ∈ group, condition.Storable :=
    fun _ inSet _ inGroup => storable_of_mem nesting unique doubles inSet inGroup
  refine ⟨?_, fun forms hasForms => deserialize_of_hasForm storable hasForms,
    fun forms valid ⟨group, inSet, form, inGroup, defective⟩ =>
      deserialize_defective valid inSet inGroup defective⟩
  -- The compact text has every condition as an object of nothing but its members, in their order.
  rw [write_toJson]
  refine deserialize_of_hasForm storable (List.forall₂_map_right_iff.mpr ?_)
  refine List.forall₂_same.mpr fun group _ => List.forall₂_map_right_iff.mpr ?_
  refine List.forall₂_same.mpr fun condition _ => ?_
  have alone : condition.members.Perm (condition.members ++ []) := by simp
  exact .object alone (by simp) (by simp)

/-- A set of an empty group and one of two conditions, the second
of which has an array as operand. -/
def nestedSet : ConditionSet :=
  ⟨[[], [⟨"age", ">=", .string "3"⟩, ⟨"", "\"", .array [.null]⟩]]⟩

/-- A member of another name, with space inside its value and behind it. -/
def noteMember : String × List Char := ("note", ['[', ' ', ']', ' '])

/-- The members of the first condition backwards and around another
one, and the second as an array. -/
def mixedForms : List (List ConditionForm) :=
  [[], [.object [("value", Json.quote "3"), noteMember, ("operator", Json.quote ">="),
    ("key", Json.quote "age")], .array [Json.quote "", Json.quote "\"", (Json.array [.null]).write]]]

/-- A group of one condition whose members are there, the key even twice. -/
def repeatedForms : List (List ConditionForm) :=
  [[.object [("key", Json.quote "age"), noteMember, ("operator", Json.quote ">="),
    ("value", Json.quote "3"), ("key", Json.quote "age")]]]

/-- A set is read back from two forms in one text, and none is read where a key stands twice. -/
theorem deserialize_forms_nested :
    deserialize nestedSet.toJson.write = some nestedSet ∧
      deserialize (formsText mixedForms) = some nestedSet ∧
      deserialize (formsText repeatedForms) = none := by
  have nesting : nestedSet.toJson.depth ≤ Json.nestingLimit := by decide
  have unique : nestedSet.toJson.KeysUnique := by
    simp [nestedSet, toJson, Condition.toJson, Json.KeysUnique, Json.Everywhere,
      Json.ItemsEverywhere, Json.MembersEverywhere, Json.KeysDiffer]
  have doubles : nestedSet.toJson.DoublesReadBack := by
    simp [nestedSet, toJson, Condition.toJson, Json.DoublesReadBack, Json.Everywhere,
      Json.ItemsEverywhere, Json.MembersEverywhere, Json.DoubleReadsBack]
  -- What the forms are made of are documents: quoted strings, and an empty array with space.
  have quoted : ∀ text, Json.IsText (Json.quote text) := by
    intro text
    obtain ⟨parts, inner, spelled, _, same⟩ := StringPart.exists_quote text
    exact ⟨_, same ▸ (Written.Spelled.string spelled).read_eq⟩
  have blank : OnlySpace [' '] := by simp [OnlySpace, isSpace]
  have noted : Json.IsText noteMember.2 :=
    ⟨_, Written.read_eq_some_iff.mpr
      ⟨[], ['[', ' ', ']'], [' '], onlySpace_nil, blank, .noItems blank, rfl⟩⟩
  -- The forms say the set, group by group and condition by condition.
  obtain ⟨itself, ofForms, refused⟩ := deserialize_forms nestedSet nesting unique doubles
  refine ⟨itself, ofForms mixedForms ?_, refused repeatedForms ?_ ?_⟩
  · have mixed : List.Perm
        [("value", Json.quote "3"), noteMember, ("operator", Json.quote ">="),
          ("key", Json.quote "age")]
        ((⟨"age", ">=", .string "3"⟩ : Condition).members ++ [noteMember]) := by
      decide
    exact .cons .nil (.cons (.cons (.object mixed (by decide) (by simpa using noted))
      (.cons .array .nil)) .nil)
  · simp [repeatedForms, ConditionForm.Valid, ConditionForm.values, quoted, noted]
  · have named : "key" ∈ Condition.memberNames := by decide
    refine ⟨_, List.mem_singleton_self _, _, List.mem_singleton_self _, ?_⟩
    exact .repeated named (by decide)

end ConditionSet

end RecordFilter
