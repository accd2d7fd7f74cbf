import RecordFilter.Json.Basic

/-! Conditions on the fields of a record: groups that must hold as
a whole, of which one is enough. -/

namespace RecordFilter

/-- A test of one field of a record against an operand. -/
structure Condition where
  /-- The key of the field. -/
  key : String
  /-- The token of the operator, which need not be a known one. -/
  operator : String
  /-- What the field is compared with. -/
  operand : Json

/-- Conditions that must all hold. -/
abbrev ConditionGroup := List Condition

/-- Groups of conditions, of which at least one must hold. -/
structure ConditionSet where
  /-- The groups in their order, some of which may be empty. -/
  groups : List ConditionGroup

namespace Condition

/-- Equality of two conditions, with operands compared strictly. -/
def same (left right : Condition) : Bool :=
  left.key == right.key && left.operator == right.operator && left.operand.strictEq right.operand

end Condition

namespace ConditionSet

/-- The set without groups, which no record satisfies. -/
def empty : ConditionSet := ⟨[]⟩

/-- Whether a set holds no conditions at all. -/
def isEmpty (set : ConditionSet) : Bool :=
  -- A set of nothing but empty groups is empty as well.
  set.groups.all List.isEmpty

/-- All conditions, group by group. -/
def conditions (set : ConditionSet) : List Condition :=
  set.groups.flatten

/-- The set without its empty groups. -/
def withoutEmpty (set : ConditionSet) : ConditionSet :=
  ⟨set.groups.filter fun group => !group.isEmpty⟩

/-- Whether two lists agree place by place under a relation. -/
def agreeBy {α : Type} (relation : α → α → Bool) : List α → List α → Bool
  | [], [] => true
  | left :: moreLeft, right :: moreRight => relation left right && agreeBy relation moreLeft moreRight
  | _, _ => false

/-- Equality of two sets, group by group and condition by condition, empty groups included. -/
def same (left right : ConditionSet) : Bool :=
  agreeBy (agreeBy Condition.same) left.groups right.groups

end ConditionSet

end RecordFilter
