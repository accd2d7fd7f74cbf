import RecordFilter.Document.Yaml.Token

/-!
A YAML document as a tree of nodes, built from its tokens.

A node with an anchor is also filed under a number, and a reference stands for that number. So a
reference may mean a node that ends behind it, and what it means is known only when the whole
document has been read.
-/

namespace RecordFilter.Yaml

/-- A node of a document. -/
inductive Node
  /-- A scalar, its tag, and whether it is plain. -/
  | scalar (tag : Option String) (text : String) (plain : Bool)
  /-- A sequence of nodes. -/
  | sequence (tag : Option String) (items : List Node)
  /-- A mapping from nodes to nodes. -/
  | mapping (tag : Option String) (pairs : List (Node × Node))
  /-- The node filed under a number. -/
  | reference (number : Nat)

namespace Node

/-- A scalar without any text. -/
def empty : Node := scalar none "" true

mutual

/-- How many marks it takes to write a node down: one for a leaf, and two around a collection. -/
def size : Node → Nat
  | sequence _ items => sizeItems items + 2
  | mapping _ pairs => sizePairs pairs + 2
  | _ => 1

/-- The sizes of some nodes together. -/
def sizeItems : List Node → Nat
  | [] => 0
  | item :: rest => item.size + sizeItems rest

/-- The sizes of some pairs of nodes together. -/
def sizePairs : List (Node × Node) → Nat
  | [] => 0
  | (key, value) :: rest => key.size + value.size + sizePairs rest

end

end Node

/-- A node with an anchor. -/
structure Anchored where
  /-- Its number. -/
  number : Nat
  /-- How many tokens lie behind its anchor. -/
  remaining : Nat
  /-- The node. -/
  node : Node

/-- The node filed under a number last, where the order of the anchors counts. -/
def latest? (number : Nat) (filed : List Anchored) : Option Node :=
  (filed.foldl (fun (best : Option Anchored) anchored =>
    if anchored.number == number && best.all fun known => anchored.remaining < known.remaining then
      some anchored
    else best) none).map (·.node)

/-- The tokens that are left, and what the tokens before them have defined. -/
structure Source where
  /-- The tokens. -/
  tokens : List Token
  /-- The beginnings of tags with a handle. -/
  shorthands : List (String × String)
  /-- The numbers of the names of anchors. -/
  names : List (String × Nat)
  /-- The nodes with anchors that have ended. -/
  filed : List Anchored

/-- What reads a part of a document. -/
abbrev Reading (α : Type) := StateT Source Option α

namespace Reading

/-- The next token. -/
def peek : Reading (Option Token) := do
  return (← get).tokens.head?

/-- Leaves the next token behind. -/
def skip : Reading Unit :=
  modify fun source => { source with tokens := source.tokens.drop 1 }

/-- Whether the next token is one of some. -/
def isNext (tokens : List Token) : Reading Bool := do
  return (← peek).any tokens.contains

/-- Leaves a token behind if it is the next one, and tells whether it was. -/
def take (token : Token) : Reading Bool := do
  if ← isNext [token] then
    skip
    return true
  else return false

/-- Leaves a token behind that must be the next one. -/
def expect (token : Token) : Reading Unit := do
  if !(← take token) then failure

/-- A tag in full, with its handle replaced by what it stands for. -/
def fullTag (handle rest : String) : Reading String := do
  if handle == "" then return rest
  else
    match (← get).shorthands.lookup handle with
    | some meaning => return meaning ++ rest
    | none => failure

/-- An anchor, if one comes next. -/
def anchor? : Reading (Option String) := do
  match ← peek with
  | some (.anchor name) =>
    skip
    return some name
  | _ => return none

/-- A tag, if one comes next. -/
def tag? : Reading (Option String) := do
  match ← peek with
  | some (.tag handle rest) =>
    skip
    return some (← fullTag handle rest)
  | _ => return none

/-- An anchor and a tag in either order, each of them optional. -/
def properties : Reading (Option String × Option String) := do
  match ← anchor? with
  | some anchor => return (some anchor, ← tag?)
  | none =>
    let tag ← tag?
    return (← anchor?, tag)

/-- Gives an anchor a number: how many names there are, so that
a new name may take over a number. -/
def number (name : String) : Reading Nat :=
  modifyGet fun source =>
    let number := source.names.length
    (number, { source with names := (name, number) :: source.names.filter fun (known, _) => known != name })

/-- Files a node under a number. -/
def file (number remaining : Nat) (node : Node) : Reading Unit :=
  modify fun source => { source with filed := ⟨number, remaining, node⟩ :: source.filed }

/-- Reads a node, and files it if it has an anchor. -/
def filing (anchor : Option String) (read : Reading Node) : Reading Node := do
  match anchor with
  | none => read
  | some name =>
    let number ← number name
    let remaining := (← get).tokens.length
    let node ← read
    file number remaining node
    return node

/-- The tag of a scalar, of which a lone exclamation mark is none but makes the scalar plain. -/
def ofScalar (tag : Option String) (text : String) (plain : Bool) : Node :=
  if tag == some "!" then .scalar none text plain else .scalar tag text plain

/-- Where a node stands, which decides how collections in it may be written. -/
inductive Position
  /-- Inside of a flow collection. -/
  | flow
  /-- In a block. -/
  | block
  /-- Next to a key or a value of a block mapping, where sequences need no deeper indentation. -/
  | mapping
deriving DecidableEq

mutual

/-- A node. -/
def node (position : Position) : Nat → Reading Node
  | 0 => failure
  | fuel + 1 => do
    match ← peek with
    | some (.reference name) =>
      skip
      match (← get).names.lookup name with
      | some number => return .reference number
      | none => failure
    | _ =>
      let (anchor, tag) ← properties
      match ← peek with
      | some (.scalar text plain) =>
        skip
        filing anchor (pure (ofScalar tag text plain))
      | some .flowSequence =>
        filing anchor do
          skip
          return .sequence tag (← flowItems fuel)
      | some .flowMapping =>
        filing anchor do
          skip
          return .mapping tag (← flowPairs fuel)
      | some .blockSequence =>
        if position == .flow then bare anchor tag
        else
          filing anchor do
            skip
            let items ← blockItems [.entry, .blockEnd] fuel
            expect .blockEnd
            return .sequence tag items
      | some .blockMapping =>
        if position == .flow then bare anchor tag
        else
          filing anchor do
            skip
            let pairs ← blockPairs fuel
            expect .blockEnd
            return .mapping tag pairs
      | some .entry =>
        if position == .mapping then
          filing anchor do
            return .sequence tag (← blockItems [.entry, .key, .value, .blockEnd] fuel)
        else bare anchor tag
      | _ => bare anchor tag

/-- A node of which nothing but an anchor or a tag is written. -/
def bare (anchor tag : Option String) : Reading Node := do
  if anchor.isNone && tag.isNone then failure
  else filing anchor (pure (.scalar tag "" true))

/-- A node, or an empty scalar before certain tokens. -/
def nodeUnless (tokens : List Token) (position : Position) : Nat → Reading Node
  | 0 => failure
  | fuel + 1 => do
    if ← isNext tokens then return .empty else node position fuel

/-- The items of a block sequence, each of which may be empty before certain tokens. -/
def blockItems (ending : List Token) : Nat → Reading (List Node)
  | 0 => failure
  | fuel + 1 => do
    if ← take .entry then
      let item ← nodeUnless ending .block fuel
      return item :: (← blockItems ending fuel)
    else return []

/-- The pairs of a block mapping. -/
def blockPairs : Nat → Reading (List (Node × Node))
  | 0 => failure
  | fuel + 1 => do
    if ← take .key then
      let key ← nodeUnless [.key, .value, .blockEnd] .mapping fuel
      let value ←
        if ← take .value then nodeUnless [.key, .value, .blockEnd] .mapping fuel else pure .empty
      return (key, value) :: (← blockPairs fuel)
    else return []

/-- The items of a flow sequence, and its closing mark. -/
def flowItems : Nat → Reading (List Node)
  | 0 => failure
  | fuel + 1 => do
    if ← take .flowSequenceEnd then return []
    else
      let item ← flowItem fuel
      if ← take .separator then return item :: (← flowItems fuel)
      else
        expect .flowSequenceEnd
        return [item]

/-- An item of a flow sequence, which may be a mapping of a single pair without marks around it. -/
def flowItem : Nat → Reading Node
  | 0 => failure
  | fuel + 1 => do
    if ← take .key then
      let key ←
        if ← isNext [.value, .separator, .flowSequenceEnd] then
          -- A mark without a key takes the token behind it along.
          skip
          pure .empty
        else node .flow fuel
      let value ←
        if ← take .value then nodeUnless [.separator, .flowSequenceEnd] .flow fuel else pure .empty
      return .mapping none [(key, value)]
    else node .flow fuel

/-- The pairs of a flow mapping, and its closing mark. -/
def flowPairs : Nat → Reading (List (Node × Node))
  | 0 => failure
  | fuel + 1 => do
    if ← take .flowMappingEnd then return []
    else
      let pair ← flowPair fuel
      if ← take .separator then return pair :: (← flowPairs fuel)
      else
        expect .flowMappingEnd
        return [pair]

/-- A pair of a flow mapping, where a node without a colon is a key without a value. -/
def flowPair : Nat → Reading (Node × Node)
  | 0 => failure
  | fuel + 1 => do
    if ← take .key then
      let key ← nodeUnless [.value, .separator, .flowMappingEnd] .flow fuel
      let value ←
        if ← take .value then nodeUnless [.separator, .flowMappingEnd] .flow fuel else pure .empty
      return (key, value)
    else return (← node .flow fuel, .empty)

end

/-- The directives in front of a document: at most one version, which
must be known, and distinct handles. -/
def directives : Nat → Bool → Reading Unit
  | 0, _ => failure
  | fuel + 1, versioned => do
    match ← peek with
    | some (.version major minor) =>
      if versioned || major != 1 || (minor != 1 && minor != 2) then failure
      else
        skip
        directives fuel true
    | some (.shorthand handle meaning) =>
      if ((← get).shorthands.lookup handle).isSome then failure
      else
        skip
        modify fun source => { source with shorthands := (handle, meaning) :: source.shorthands }
        directives fuel versioned
    | _ => return

/-- The beginnings of tags that need no directive. -/
def commonShorthands : List (String × String) :=
  [("!", "!"), ("!!", "tag:yaml.org,2002:")]

/-- Adds the common beginnings of tags behind those that directives define. -/
def addCommonShorthands : Reading Unit :=
  modify fun source => { source with shorthands := source.shorthands ++ commonShorthands }

/-- Whether the next token is a directive. -/
def isDirectiveNext : Reading Bool := do
  match ← peek with
  | some (.version ..) => return true
  | some (.shorthand ..) => return true
  | _ => return false

/-- The only document, with optional marks around it. -/
def document : Reading Node := do
  let fuel := 4 * (← get).tokens.length + 4
  let directed ← isDirectiveNext
  directives fuel false
  addCommonShorthands
  let marked ← take .documentStart
  if directed && !marked then failure
  let unwritten := (← peek).isNone || (← isNext [.documentStart, .documentEnd]) || (← isDirectiveNext)
  let root ← if marked && unwritten then pure .empty else node .block fuel
  modify fun source => { source with tokens := source.tokens.dropWhile (· == .documentEnd) }
  return root

end Reading

/-- A document with the nodes that its references mean. -/
structure Document where
  /-- The outermost node. -/
  root : Node
  /-- The nodes with anchors. -/
  filed : List Anchored

/-- The document that tokens make up, if they make up exactly one. -/
def Document.ofTokens? (tokens : List Token) : Option Document :=
  (Reading.document.run ⟨tokens, [], [], []⟩).bind fun (root, source) =>
    if source.tokens.isEmpty then some ⟨root, source.filed⟩ else none

end RecordFilter.Yaml
