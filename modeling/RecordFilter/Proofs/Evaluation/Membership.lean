import RecordFilter.Proofs.Condition.Building
import RecordFilter.Proofs.Evaluation.KnownOperators

/-! Asking whether a field is among some values is asking for one of them at a time. -/

namespace RecordFilter

/-- Whether the field of a record, null if there is none, is loosely equal to one of some values. -/
def Json.isAmong (record : Json) (key : String) (values : List Json) : Bool :=
  values.any ((record.child (.field key)).getD .null).looseEq

namespace ConditionBuilder

/-- The set that asks for each of some values in a group of its own. -/
def equalsAny (key : String) (values : List Json) : ConditionSet :=
  (values.foldl (fun builder value => builder.orWhere ⟨key, "=", value⟩) new).build

/-- The set that excludes every one of some values. -/
def differsFromAll (key : String) (values : List Json) : ConditionSet :=
  (values.foldl (fun builder value => builder.andWhere ⟨key, "!=", value⟩) new).build

variable {key : String} {values : List Json} {operand : Json}

/-- Every value is asked for in its own group. -/
theorem equalsAny_eq (key : String) (values : List Json) :
    equalsAny key values = ⟨values.map fun value => [.on key .equal value]⟩ := by
  have built : values.foldl (fun builder value => builder.orWhere ⟨key, "=", value⟩) new =
      ofGroups (values.map fun value => [.on key .equal value]) := by
    -- Each step opens a group of its own behind the groups before it.
    have steps := foldl_orWhere_ofGroups [] (values.map (Condition.on key .equal))
    rw [List.foldl_map, List.map_map] at steps
    exact steps
  rw [equalsAny, built]
  simp [build, ofGroups, ConditionSet.withoutEmpty]

/-- All values are excluded in one group. -/
theorem differsFromAll_eq (some_ : values ≠ []) :
    differsFromAll key values = ⟨[values.map (.on key .notEqual)]⟩ := by
  -- There is no group yet that the conditions could join.
  have opened : joinLast [] (values.map (Condition.on key .notEqual)) =
      [values.map (.on key .notEqual)] := by
    simp [joinLast, some_]
  have built : values.foldl (fun builder value => builder.andWhere ⟨key, "!=", value⟩) new =
      ofGroups [values.map (.on key .notEqual)] := by
    -- The first step opens the group, and all others join it.
    have steps := foldl_andWhere_ofGroups [] (values.map (Condition.on key .notEqual))
    rw [List.foldl_map, opened] at steps
    exact steps
  rw [differsFromAll, built]
  simp [build, ofGroups, ConditionSet.withoutEmpty, some_]

section Engine

variable [Pattern.Engine]

/-- The records whose field is among the values are kept. -/
theorem evaluate_whereIn (key : String) (values : List Json) (collection : Json) :
    (collection.evaluate (new.whereIn key values).build).result =
      .ok (collection.filterRecords (·.isAmong key values)) :=
  evaluate_whereOperator key .isIn (.array values) collection

/-- The records whose field is not among the values are kept. -/
theorem evaluate_whereNotIn (key : String) (values : List Json) (collection : Json) :
    (collection.evaluate (new.whereNotIn key values).build).result =
      .ok (collection.filterRecords fun record => !record.isAmong key values) :=
  evaluate_whereOperator key .notIn (.array values) collection

/-- One group for each value keeps the records whose field is among the values. -/
theorem evaluate_equalsAny (key : String) (values : List Json) (collection : Json) :
    (collection.evaluate (equalsAny key values)).result =
      .ok (collection.filterRecords (·.isAmong key values)) := by
  rw [equalsAny_eq]
  exact ConditionSet.evaluate_alternatives key .equal values collection

/-- One group for all values keeps the records whose field is not among them. -/
theorem evaluate_differsFromAll (key : String) (some_ : values ≠ []) (collection : Json) :
    (collection.evaluate (differsFromAll key values)).result =
      .ok (collection.filterRecords fun record => !record.isAmong key values) := by
  rw [differsFromAll_eq some_, ConditionSet.evaluate_conjunction key .notEqual some_]
  -- To differ from all values is to equal none of them.
  simp only [Json.isAmong, List.not_any_eq_all_not]
  rfl

/-- Nothing is among the items of an operand that has none, and nothing is found not to be. -/
theorem keeps_of_noArray (noArray : ∀ items, operand ≠ .array items) :
    ((new.whereOperator key .isIn operand).build.Keeps fun _ => false) ∧
      (new.whereOperator key .notIn operand).build.Keeps fun _ => false := by
  have membership := keeps_whereOperator key .isIn operand
  have absence := keeps_whereOperator key .notIn operand
  -- Both operators refuse an operand that is no array, and so their tests fail of every field.
  cases operand with
  | array items => exact absurd rfl (noArray items)
  | _ => exact ⟨membership, absence⟩

/--
A filter that asks whether a field is among some values keeps what is kept by a group for each value
that asks for equality, which is nothing if there are no values; and one that asks whether it is not
keeps what is kept by a single group that excludes each value, if there is one. So the two filters
split a collection: the one keeps the records whose field is loosely equal to some value, and the
other all others. With an operand that is no array both of them keep nothing.
-/
theorem membership_is_disjunction (key : String) :
    (∀ (values : List Json) (collection : Json),
      (collection.evaluate (new.whereIn key values).build).result =
        (collection.evaluate (equalsAny key values)).result) ∧
    (((new.whereIn key []).build.Keeps fun _ => false) ∧
      (equalsAny key []).Keeps fun _ => false) ∧
    (∀ values : List Json, values ≠ [] → ∀ collection : Json,
      (collection.evaluate (new.whereNotIn key values).build).result =
        (collection.evaluate (differsFromAll key values)).result) ∧
    (∀ values : List Json,
      ((new.whereOperator key .isIn (.array values)).build.Keeps fun record =>
        record.isAmong key values) ∧
      (new.whereOperator key .notIn (.array values)).build.Keeps fun record =>
        !record.isAmong key values) ∧
    ∀ operand : Json, (∀ items, operand ≠ .array items) →
      ((new.whereOperator key .isIn operand).build.Keeps fun _ => false) ∧
        (new.whereOperator key .notIn operand).build.Keeps fun _ => false := by
  refine ⟨fun values collection => ?_, ?_, fun values some_ collection => ?_, fun values => ?_,
    fun operand noArray => keeps_of_noArray noArray⟩
  · -- Both filters keep the records whose field is among the values.
    rw [evaluate_whereIn, evaluate_equalsAny]
  · -- No field is among no values.
    exact ⟨ConditionSet.keeps_of_evaluate (evaluate_whereIn key []),
      ConditionSet.keeps_of_evaluate (evaluate_equalsAny key [])⟩
  · -- Both filters keep those whose field is not.
    rw [evaluate_whereNotIn, evaluate_differsFromAll key some_]
  · exact ⟨ConditionSet.keeps_of_evaluate (evaluate_whereIn key values),
      ConditionSet.keeps_of_evaluate (evaluate_whereNotIn key values)⟩

end Engine

/-- Two values are excluded at once or one after the other, and a text has no items to be among. -/
theorem membership_is_disjunction_pair :
    [Json.null, .string "7"] ≠ [] ∧
      (∀ collection : Json,
        (collection.evaluate (new.whereNotIn "id" [.null, .string "7"]).build).result =
          (collection.evaluate (differsFromAll "id" [.null, .string "7"])).result) ∧
      (∀ items, Json.string "7" ≠ .array items) ∧
      ((Json.array [.object [], .object [("id", .string "7")]]).evaluate
        (new.whereOperator "id" .notIn (.string "7")).build).result = .ok (.array []) := by
  obtain ⟨-, -, excluded, -, noItems⟩ := membership_is_disjunction "id"
  obtain ⟨_, nothing⟩ := noItems (.string "7") nofun
  exact ⟨nofun, excluded _ nofun, nofun, nothing.items _⟩

end ConditionBuilder

end RecordFilter
