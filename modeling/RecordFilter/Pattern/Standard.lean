import RecordFilter.Pattern.Reader

/-! A standard engine for patterns: general categories and a few more properties,
and estimates for its limits. -/

namespace RecordFilter

/-- How many states a program for an expression has, if every character and condition takes one. -/
def Regex.states : Regex → Nat
  | empty => 0
  | character _ => 1
  | assertion _ => 1
  | sequence first second => first.states + second.states
  | either left right => left.states + right.states + 1
  | repeated body least most =>
    -- Every round that is counted has states of its own, and an open end goes back over one more.
    (body.states + 1) * most.getD (least + 1)

namespace Pattern.Standard

/-- The name of a property without case, blanks, hyphens, underscores and a leading word. -/
def plainName (name : List Char) : String :=
  let kept := (name.filter fun character =>
    !(Text.isBlank character || character == '-' || character == '_')).map Char.toLower
  match kept with
  | 'i' :: 's' :: rest => String.ofList (if rest == ['c'] then kept else rest)
  | _ => String.ofList kept

/-- The characters with a property that is known by name. -/
def named? (name : List Char) : Option CharSet :=
  match plainName name with
  | "any" => some CharSet.anything
  | "ascii" => some CharSet.ascii
  | "assigned" => some (.compl (.categories [.cn]))
  | "alphabetic" | "alpha" => some CharSet.alphabetic
  | "whitespace" | "wspace" | "space" => some CharSet.blank
  | plain => (Category.named? plain).map CharSet.categories

/-- The characters with a property: of those that have values, the general category alone. -/
def property? (name : List Char) : Option (List Char) → Option CharSet
  | none => named? name
  | some value =>
    if ["gc", "generalcategory"].contains (plainName name) then named? value else none

/-- The engine with the properties, but without limits. -/
@[reducible]
def unlimited : Engine := ⟨property?, fun _ => false, fun _ => none⟩

/-- The greatest number of groups that are open at once, beyond those that are open already. -/
def nesting (isOpen deepest : Nat) : List Char → Nat
  | [] => deepest
  | '\\' :: _ :: rest => nesting isOpen deepest rest
  | '(' :: rest => nesting (isOpen + 1) (max deepest (isOpen + 1)) rest
  | ')' :: rest => nesting (isOpen - 1) deepest rest
  | _ :: rest => nesting isOpen deepest rest

/-- How deep a pattern may nest. -/
def nestLimit : Nat := 250

/-- The room for a compiled pattern, in bytes. -/
def sizeLimit : Nat := 10 * 1024 * 1024

/-- The room that one state takes, in bytes. -/
def stateSize : Nat := 32

/-- Whether a pattern is beyond the limits, where a group counts
one level and the whole one more. -/
def exceeds (text : List Char) : Bool :=
  nestLimit < nesting 0 0 text + 1 ||
    (@read unlimited text).any fun regex => sizeLimit < stateSize * regex.states

/-- The standard engine, which tells nothing about the patterns it refuses. -/
@[reducible]
def engine : Engine := ⟨property?, exceeds, fun _ => none⟩

end Pattern.Standard

instance : Pattern.Engine := Pattern.Standard.engine

end RecordFilter
