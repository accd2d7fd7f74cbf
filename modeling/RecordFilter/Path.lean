import RecordFilter.Json.Basic
import RecordFilter.Numeric.Digits

/-! Paths to the parts of a document: dotted texts, their segments,
and the node that they lead to. -/

namespace RecordFilter

/-- One step of a path. -/
inductive Segment
  /-- The key of a member. -/
  | field (name : String)
  /-- The position of an item. -/
  | index (position : Nat)
deriving DecidableEq

/-- The position that a text names: digits after an optional plus sign, in the range of 64 bits. -/
def position? (text : String) : Option Nat :=
  -- A plus sign in front is allowed, but no minus sign.
  let digits := match text.toList with
    | '+' :: rest => rest
    | other => other
  if !digits.isEmpty && digits.all Char.isDigit && ofDigits digits < twoTo 64 then some (ofDigits digits)
  else none

namespace Segment

/-- A part of a dotted text is a position if it names one, and a key otherwise. -/
def ofText (text : String) : Segment :=
  -- A text of digits can be a key as well, which is settled where it is used.
  (position? text).elim (field text) index

/-- A segment as a part of a dotted text. -/
def text : Segment → String
  | field name => name
  | index position => String.ofList (digits position)

end Segment

/-- A path from the root of a document: its segments, of which the root has none. -/
abbrev NodePath := List Segment

namespace NodePath

/-- The parts of a text between its points. -/
def parts : List Char → List (List Char)
  -- There is one part more than there are points.
  | [] => [[]]
  | '.' :: rest => [] :: parts rest
  | character :: rest =>
    match parts rest with
    | [] => [[character]]
    | part :: more => (character :: part) :: more

/-- Reads a dotted text; the empty text and a lone point are the root. -/
def ofText (text : String) : NodePath :=
  if text == "" || text == "." then []
  else (parts text.toList).map fun part => Segment.ofText (String.ofList part)

/-- Whether a path leads to the document itself. -/
def isRoot (path : NodePath) : Bool :=
  path.isEmpty

/-- The dotted text of a path, which is a lone point for the root. -/
def text (path : NodePath) : String :=
  match path with
  | [] => "."
  | segments => String.intercalate "." (segments.map Segment.text)

end NodePath

namespace Json

/-- One step down: keys lead into objects and positions into arrays,
and each stands in for the other. -/
def child (node : Json) (segment : Segment) : Option Json :=
  match node, segment with
  | object members, .field name => find? name members
  -- A position stands in for the key that is written like it.
  | object members, .index position => find? (Segment.index position).text members
  | array items, .index position => items[position]?
  -- A key stands in for the position that it names.
  | array items, .field name => (position? name).bind fun position => items[position]?
  | _, _ => none

/-- The node that a path leads to, if every step finds one. -/
def resolve (node : Json) : NodePath → Option Json
  | [] => some node
  -- The first step that finds nothing ends the way.
  | segment :: rest => (node.child segment).bind fun next => next.resolve rest

/-- How many segments at the start of a path lead somewhere. -/
def reach (node : Json) : NodePath → Nat
  | [] => 0
  | segment :: rest =>
    match node.child segment with
    | some next => next.reach rest + 1
    | none => 0

end Json

end RecordFilter
