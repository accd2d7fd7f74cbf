import RecordFilter.Condition.Basic
import RecordFilter.Failure
import RecordFilter.Operator

/-! Building a condition set step by step: conditions join the current group or open a new one. -/

namespace RecordFilter

/-- A condition set under construction. -/
structure ConditionBuilder where
  /-- The groups built so far. -/
  set : ConditionSet
  /-- The position of the group that conditions join, once there is one. -/
  current : Option Nat

namespace ConditionBuilder

/-- The builder without conditions. -/
def new : ConditionBuilder := ⟨ConditionSet.empty, none⟩

/-- Opens a new group and makes it the current one. -/
def openGroup (builder : ConditionBuilder) : ConditionBuilder :=
  ⟨⟨builder.set.groups ++ [[]]⟩, some builder.set.groups.length⟩

/-- Opens the first group if there is none yet. -/
def ensureGroup (builder : ConditionBuilder) : ConditionBuilder :=
  match builder.current with
  -- A group that is open stays the current one.
  | some _ => builder
  | none => builder.openGroup

/-- Appends a condition to the current group. -/
def push (builder : ConditionBuilder) (condition : Condition) : ConditionBuilder :=
  match builder.current with
  | some position =>
    -- Only the current group changes, wherever it stands.
    { builder with set := ⟨builder.set.groups.modify position (· ++ [condition])⟩ }
  | none => builder

/-- Adds a condition that must hold together with those of the current group. -/
def andWhere (builder : ConditionBuilder) (condition : Condition) : ConditionBuilder :=
  builder.ensureGroup.push condition

/-- Adds a condition in a new group. -/
def orWhere (builder : ConditionBuilder) (condition : Condition) : ConditionBuilder :=
  builder.openGroup.push condition

/-- Lets further steps add to the current group, which is opened if there is none. -/
def whereGroup (builder : ConditionBuilder) (build : ConditionBuilder → ConditionBuilder) :
    ConditionBuilder :=
  -- Steps that open groups of their own leave the last one current.
  build builder.ensureGroup

/-- Lets further steps add to a new group. -/
def orWhereGroup (builder : ConditionBuilder) (build : ConditionBuilder → ConditionBuilder) :
    ConditionBuilder :=
  build builder.openGroup

/-- Adds a condition with a known operator. -/
def whereOperator (builder : ConditionBuilder) (key : String) (operator : Operator)
    (operand : Json) : ConditionBuilder :=
  builder.andWhere ⟨key, operator.token, operand⟩

/-- The field must equal one of some values. -/
def whereIn (builder : ConditionBuilder) (key : String) (values : List Json) : ConditionBuilder :=
  builder.whereOperator key .isIn (.array values)

/-- The field must equal none of some values. -/
def whereNotIn (builder : ConditionBuilder) (key : String) (values : List Json) :
    ConditionBuilder :=
  builder.whereOperator key .notIn (.array values)

/-- The field must be absent or null. -/
def whereNull (builder : ConditionBuilder) (key : String) : ConditionBuilder :=
  builder.whereOperator key .null .null

/-- The field must be present and not null. -/
def whereNotNull (builder : ConditionBuilder) (key : String) : ConditionBuilder :=
  builder.whereOperator key .notNull .null

/-- A pattern must match at the start of the field. -/
def whereStartsWith (builder : ConditionBuilder) (key : String) (operand : Json) :
    ConditionBuilder :=
  builder.whereOperator key .startsWith operand

/-- The field must end in a text. -/
def whereEndsWith (builder : ConditionBuilder) (key : String) (operand : Json) :
    ConditionBuilder :=
  builder.whereOperator key .endsWith operand

/-- A pattern must match the whole field. -/
def whereMatch (builder : ConditionBuilder) (key : String) (operand : Json) : ConditionBuilder :=
  builder.whereOperator key .fullMatch operand

/-- The field must contain a text. -/
def whereContains (builder : ConditionBuilder) (key : String) (operand : Json) :
    ConditionBuilder :=
  builder.whereOperator key .contains operand

/-- Whether no condition has been added. -/
def isEmpty (builder : ConditionBuilder) : Bool :=
  builder.set.isEmpty

/-- The groups built so far, empty ones included. -/
def conditions (builder : ConditionBuilder) : ConditionSet :=
  builder.set

/-- The finished set, without empty groups. -/
def build (builder : ConditionBuilder) : ConditionSet :=
  builder.set.withoutEmpty

/-- Adds the first conditions of a later group: the first of them opens the group. -/
def spliceGroup (builder : ConditionBuilder) : ConditionGroup → ConditionBuilder
  | [] => builder
  -- An empty group opens nothing.
  | first :: rest => rest.foldl andWhere (builder.orWhere first)

/-- Adds a finished set: its first group joins the current group, and the others follow. -/
def splice (builder : ConditionBuilder) (set : ConditionSet) : ConditionBuilder :=
  match set.groups with
  | [] => builder
  -- Only the first group may join what was built before.
  | first :: rest => rest.foldl spliceGroup (first.foldl andWhere builder)

end ConditionBuilder

/-- A step of a builder. -/
inductive BuilderStep
  /-- A condition for the current group. -/
  | andWhere (condition : Condition)
  /-- A condition for a new group. -/
  | orWhere (condition : Condition)
  /-- A condition with a known operator for the current group. -/
  | whereOperator (key : String) (operator : Operator) (operand : Json)
  /-- A field that must equal one of some values. -/
  | whereIn (key : String) (values : List Json)
  /-- A field that must equal none of some values. -/
  | whereNotIn (key : String) (values : List Json)
  /-- A field that must be absent or null. -/
  | whereNull (key : String)
  /-- A field that must be present and not null. -/
  | whereNotNull (key : String)
  /-- A pattern that must match at the start of a field. -/
  | whereStartsWith (key : String) (operand : Json)
  /-- A text that a field must end in. -/
  | whereEndsWith (key : String) (operand : Json)
  /-- A pattern that must match a whole field. -/
  | whereMatch (key : String) (operand : Json)
  /-- A text that a field must contain. -/
  | whereContains (key : String) (operand : Json)
  /-- Steps that start in the current group. -/
  | whereGroup (steps : List BuilderStep)
  /-- Steps that start in a new group. -/
  | orWhereGroup (steps : List BuilderStep)

namespace ConditionBuilder

mutual

/-- The builder after one step. -/
def step (builder : ConditionBuilder) : BuilderStep → ConditionBuilder
  | .andWhere condition => builder.andWhere condition
  | .orWhere condition => builder.orWhere condition
  | .whereOperator key operator operand => builder.whereOperator key operator operand
  | .whereIn key values => builder.whereIn key values
  | .whereNotIn key values => builder.whereNotIn key values
  | .whereNull key => builder.whereNull key
  | .whereNotNull key => builder.whereNotNull key
  | .whereStartsWith key operand => builder.whereStartsWith key operand
  | .whereEndsWith key operand => builder.whereEndsWith key operand
  | .whereMatch key operand => builder.whereMatch key operand
  | .whereContains key operand => builder.whereContains key operand
  | .whereGroup steps => builder.whereGroup fun inner => inner.steps steps
  | .orWhereGroup steps => builder.orWhereGroup fun inner => inner.steps steps

/-- The builder after several steps. -/
def steps (builder : ConditionBuilder) : List BuilderStep → ConditionBuilder
  | [] => builder
  | first :: rest => (builder.step first).steps rest

end

end ConditionBuilder

end RecordFilter
