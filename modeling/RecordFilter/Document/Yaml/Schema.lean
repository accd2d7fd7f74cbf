import RecordFilter.Document.Bytes
import RecordFilter.Document.Yaml.Node
import RecordFilter.Document.Yaml.Tokens
import RecordFilter.Numeric.Decimal

/-! What the nodes of a YAML document mean: plain scalars by their
look, other scalars by their tags. -/

namespace RecordFilter.Yaml

/-- Whether a text spells the null value. -/
def isNull (text : String) : Bool :=
  ["~", "null", "Null", "NULL"].contains text

/-- The truth value that a text spells. -/
def bool? (text : String) : Option Bool :=
  if ["true", "True", "TRUE"].contains text then some true
  else if ["false", "False", "FALSE"].contains text then some false
  else none

/-- The number that digits denote in a base, if there are any and all are below the base. -/
def ofDigits? (base : Nat) (text : List Char) : Option Nat :=
  if text.isEmpty then none
  else
    text.foldl (fun (total : Option Nat) character =>
      total.bind fun value =>
        (hexValue? character).bind fun digit =>
          if digit < base then some (base * value + digit) else none) (some 0)

/-- The natural number that a text spells: decimal without zeros in
front, or in a base that it names. -/
def natural? : List Char → Option Nat
  | '0' :: 'x' :: rest => ofDigits? 16 rest
  | '0' :: 'o' :: rest => ofDigits? 8 rest
  | '0' :: 'b' :: rest => ofDigits? 2 rest
  | '0' :: _ :: _ => none
  | text => ofDigits? 10 text

/-- The integer that a text spells, if it is no wider than 128 bits. -/
def integer? (text : List Char) : Option Int :=
  match text with
  | '-' :: rest =>
    (natural? rest).bind fun value => if value ≤ twoTo 127 then some (-(value : Int)) else none
  | '+' :: rest => (natural? rest).bind fun value => if value < twoTo 128 then some (value : Int) else none
  | _ => (natural? text).bind fun value => if value < twoTo 128 then some (value : Int) else none

/-- Whether a text is a row of digits with a zero in front, which is no number. -/
def hasLeadingZero (text : List Char) : Bool :=
  match (Decimal.takeSign text).2 with
  | '0' :: next :: rest => (next :: rest).all Char.isDigit
  | _ => false

/-- The number that a text spells as a float; of the words for what
is no number, and infinities, null. -/
def float? (text : String) : Option Json :=
  let infinities := [".inf", ".Inf", ".INF"]
  if [".nan", ".NaN", ".NAN"].contains text ||
      infinities.any fun word => text == word || text == "+" ++ word || text == "-" ++ word then
    some .null
  else
    ((Decimal.read text.toList).bind fun decimal => Number.ofDouble? decimal.toDouble).map .number

/-- What a plain scalar without a tag means. An integer wider than 64 bits means nothing. -/
def plain? (text : String) : Option Json :=
  if text.isEmpty || isNull text then some .null
  else
    match bool? text with
    | some value => some (.bool value)
    | none =>
      match integer? text.toList with
      | some value => Bytes.ofInt? value
      | none =>
        if hasLeadingZero text.toList then some (.string text)
        else some ((float? text).getD (.string text))

/-- Whether a tag is one that only the writer of a document knows. -/
def isLocal (tag : String) : Bool :=
  tag.toList.head? == some '!'

/-- What a scalar means. -/
def scalar? (tag : Option String) (text : String) (plain : Bool) : Option Json :=
  match tag with
  | none => if plain then plain? text else some (.string text)
  | some name =>
    if isLocal name then none
    else if name == "tag:yaml.org,2002:bool" then (bool? text).map .bool
    else if name == "tag:yaml.org,2002:int" then (integer? text.toList).bind Bytes.ofInt?
    else if name == "tag:yaml.org,2002:float" then float? text
    else if name == "tag:yaml.org,2002:null" then if isNull text then some .null else none
    else some (.string text)

/-- What counts the references that may still be followed. -/
abbrev Following (α : Type) := StateT Nat Option α

/-- A node that is no reference: what a reference means, and any other node itself. -/
def follow (filed : List Anchored) (node : Node) : Following Node := do
  match node with
  | .reference number =>
    if (← get) == 0 then failure
    modify (· - 1)
    StateT.lift (latest? number filed)
  | _ => return node

/-- The text of a key, which must be a scalar and is taken as it is written. -/
def keyText (filed : List Anchored) (node : Node) : Following String := do
  match ← follow filed node with
  | .scalar _ text _ => return text
  | _ => failure

/-- What a node means, where collections may be nested so deep and no deeper. -/
def meaning (filed : List Anchored) : Nat → Node → Following Json
  | 0, node => do
    match ← follow filed node with
    | .scalar tag text plain => StateT.lift (scalar? tag text plain)
    | _ => failure
  | room + 1, node => do
    match ← follow filed node with
    | .scalar tag text plain => StateT.lift (scalar? tag text plain)
    | .sequence tag items =>
      if tag.any isLocal then failure
      return .array (← items.mapM (meaning filed room))
    | .mapping tag pairs =>
      if tag.any isLocal then failure
      let members ← pairs.mapM fun (key, value) => do
        return (← keyText filed key, ← meaning filed room value)
      return .object (Json.ofMembers members)
    | .reference _ => failure

/-- How deep collections may be nested. -/
def nestingLimit : Nat := 128

/-- What a document means. Following more than a hundred references
for each of its marks is too much. -/
def Document.toJson? (document : Document) : Option Json :=
  ((meaning document.filed nestingLimit document.root).run (100 * document.root.size)).map (·.1)

/-- The document that bytes hold as a YAML text. -/
def decode (bytes : ByteArray) : Option Json :=
  (String.fromUTF8? bytes).bind fun text =>
    if text.toList.all isAllowed then
      (tokens? text.toList).bind fun tokens =>
        if tokens.isEmpty then some .null else (Document.ofTokens? tokens).bind Document.toJson?
    else none

end RecordFilter.Yaml
