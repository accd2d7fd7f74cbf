import RecordFilter.Pattern.CharSet

/-! Regular expressions with assertions: what they match between two places
of a text, and a search for it. -/

namespace RecordFilter

/-- A place between the characters of a text. -/
structure Spot where
  /-- How many characters lie before the place. -/
  position : Nat
  /-- The character just before the place, unless the text starts there. -/
  before : Option Char
  /-- The rest of the text. -/
  after : List Char
deriving DecidableEq

/-- A condition on a place that takes no character. -/
inductive Assertion
  /-- The text starts here. -/
  | startOfText
  /-- The text ends here. -/
  | endOfText
  /-- A line starts here, where a carriage return may end a line if so asked. -/
  | startOfLine (carriageReturn : Bool)
  /-- A line ends here, where a carriage return may end a line if so asked. -/
  | endOfLine (carriageReturn : Bool)
  /-- A word starts or ends here. -/
  | wordBoundary (words : CharSet)
  /-- No word starts or ends here. -/
  | noWordBoundary (words : CharSet)
  /-- A word starts here. -/
  | wordStart (words : CharSet)
  /-- A word ends here. -/
  | wordEnd (words : CharSet)
  /-- No character of a word lies just before. -/
  | wordStartHalf (words : CharSet)
  /-- No character of a word lies just after. -/
  | wordEndHalf (words : CharSet)
deriving DecidableEq

/-- A regular expression, in which flags and names of groups have already been used up. -/
inductive Regex
  /-- The empty text. -/
  | empty
  /-- One character of a set. -/
  | character (accepted : CharSet)
  /-- A condition on the place. -/
  | assertion (condition : Assertion)
  /-- One expression after another. -/
  | sequence (first second : Regex)
  /-- Either of two expressions. -/
  | either (left right : Regex)
  /-- An expression several times over: at least so often, and at
  most so often if there is a limit. -/
  | repeated (body : Regex) (least : Nat) (most : Option Nat)
deriving DecidableEq

namespace Spot

/-- The start of a text. -/
def start (text : List Char) : Spot := ⟨0, none, text⟩

/-- The place after the next character, and that character. -/
def next? (spot : Spot) : Option (Char × Spot) :=
  match spot.after with
  | [] => none
  | character :: rest => some (character, ⟨spot.position + 1, some character, rest⟩)

/-- Whether the character just before belongs to a set. -/
def follows (spot : Spot) (characters : CharSet) : Bool :=
  spot.before.any characters.holds

/-- Whether the character just after belongs to a set. -/
def precedes (spot : Spot) (characters : CharSet) : Bool :=
  spot.after.head?.any characters.holds

/-- All places of a text from a given one on. -/
def onward (position : Nat) (before : Option Char) : List Char → List Spot
  | [] => [⟨position, before, []⟩]
  | character :: rest =>
    ⟨position, before, character :: rest⟩ :: onward (position + 1) (some character) rest

/-- All places of a text. -/
def all (text : List Char) : List Spot := onward 0 none text

end Spot

namespace Assertion

/-- Whether a condition holds at a place. -/
def holds (spot : Spot) : Assertion → Bool
  | startOfText => spot.before.isNone
  | endOfText => spot.after.isEmpty
  | startOfLine false => spot.before.isNone || spot.before == some '\n'
  | startOfLine true =>
    -- A line feed right after a carriage return still belongs to the end of the line.
    spot.before.isNone || spot.before == some '\n' ||
      (spot.before == some '\r' && spot.after.head? != some '\n')
  | endOfLine false => spot.after.isEmpty || spot.after.head? == some '\n'
  | endOfLine true =>
    spot.after.isEmpty || spot.after.head? == some '\r' ||
      (spot.after.head? == some '\n' && spot.before != some '\r')
  | wordBoundary words => spot.follows words != spot.precedes words
  | noWordBoundary words => spot.follows words == spot.precedes words
  | wordStart words => !spot.follows words && spot.precedes words
  | wordEnd words => spot.follows words && !spot.precedes words
  | wordStartHalf words => !spot.follows words
  | wordEndHalf words => !spot.precedes words

end Assertion

namespace Regex

/-- What an expression matches: it leads from one place of a text to another. -/
inductive Matches : Regex → Spot → Spot → Prop
  /-- The empty text leads nowhere else. -/
  | empty (spot : Spot) : Matches .empty spot spot
  /-- A character of the set leads over it. -/
  | character {accepted : CharSet} {spot later : Spot} {taken : Char}
      (step : spot.next? = some (taken, later)) (belongs : accepted.holds taken = true) :
      Matches (.character accepted) spot later
  /-- A condition that holds leads nowhere else. -/
  | assertion {condition : Assertion} {spot : Spot} (holds : condition.holds spot = true) :
      Matches (.assertion condition) spot spot
  /-- Two expressions lead over a place between them. -/
  | sequence {first second : Regex} {spot middle later : Spot}
      (before : Matches first spot middle) (after : Matches second middle later) :
      Matches (.sequence first second) spot later
  /-- The left one of two leads where it does alone. -/
  | left {left right : Regex} {spot later : Spot} (taken : Matches left spot later) :
      Matches (.either left right) spot later
  /-- The right one of two leads where it does alone. -/
  | right {left right : Regex} {spot later : Spot} (taken : Matches right spot later) :
      Matches (.either left right) spot later
  /-- A repetition may end as soon as no more rounds are asked for. -/
  | finished {body : Regex} {most : Option Nat} (spot : Spot) :
      Matches (.repeated body 0 most) spot spot
  /-- A repetition may take one more round while the limit allows it. -/
  | round {body : Regex} {least : Nat} {most : Option Nat} {spot middle later : Spot}
      (allowed : most ≠ some 0) (taken : Matches body spot middle)
      (others : Matches (.repeated body (least - 1) (most.map (· - 1))) middle later) :
      Matches (.repeated body least most) spot later

/-- Whether a place is among others of the same text. -/
def includes (spots : List Spot) (spot : Spot) : Bool :=
  spots.any fun other => other.position == spot.position

/-- The places of two lists, those of the first that are new before all of the second. -/
def merge (new known : List Spot) : List Spot :=
  new.filter (fun spot => !includes known spot) ++ known

/-- Places without repetitions. -/
def distinct : List Spot → List Spot
  | [] => []
  | spot :: rest => merge [spot] (distinct rest)

/-- The places reached from given ones by so many steps. -/
def exactly (step : Spot → List Spot) : Nat → List Spot → List Spot
  | 0, spots => spots
  | rounds + 1, spots => exactly step rounds (distinct (spots.flatMap step))

/-- The places reached from given ones by at most so many steps. -/
def atMost (step : Spot → List Spot) : Nat → List Spot → List Spot
  | 0, spots => spots
  | rounds + 1, spots => merge spots (atMost step rounds (distinct (spots.flatMap step)))

/-- The places that an expression leads to from a given one. -/
def ends : Regex → Spot → List Spot
  | empty, spot => [spot]
  | character accepted, spot =>
    match spot.next? with
    | some (taken, later) => if accepted.holds taken then [later] else []
    | none => []
  | assertion condition, spot => if condition.holds spot then [spot] else []
  | sequence first second, spot => distinct ((first.ends spot).flatMap second.ends)
  | either left right, spot => distinct (left.ends spot ++ right.ends spot)
  | repeated body least most, spot =>
    -- More rounds than there are places ahead pass one of them twice, and change nothing.
    let enough := spot.after.length + 1
    let required := exactly body.ends (min least enough) [spot]
    match most with
    | none => atMost body.ends enough required
    | some limit => atMost body.ends (min (limit - least) enough) required

/-- Whether an expression matches somewhere in a text. -/
def matchesIn (regex : Regex) (text : List Char) : Bool :=
  (Spot.all text).any fun spot => !(regex.ends spot).isEmpty

end Regex

end RecordFilter
