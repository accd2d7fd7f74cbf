import RecordFilter.Json.Basic

/-! Tables of TOML: keys are set once, headers open tables once, and
dotted keys open tables on the way. -/

namespace RecordFilter.Toml

/-- How a table came about, which decides what may still be added to it. -/
inductive TableKind
  /-- By a header of its own, or as the whole document. -/
  | explicit
  /-- On the way of a header to a table below it. -/
  | implicit
  /-- On the way of a dotted key. -/
  | dotted
deriving DecidableEq

/-- What a key stands for. -/
inductive Node
  /-- A finished value. -/
  | value (content : Json)
  /-- A table. -/
  | table (kind : TableKind) (members : List (String × Node))
  /-- Tables under a header in double brackets. -/
  | tables (items : List (List (String × Node)))

/-- The members of a table, in the order of the text. -/
abbrev Members := List (String × Node)

/-- A table that is being filled. -/
structure Table where
  /-- How the table came about. -/
  kind : TableKind
  /-- Its members. -/
  members : Members

namespace Table

/-- The node under a key. -/
def find? (key : String) : Members → Option Node
  | [] => none
  | (name, node) :: rest => if name == key then some node else find? key rest

/-- The members with another node under a key that is there already. -/
def replace (key : String) (node : Node) : Members → Members
  | [] => []
  | (name, old) :: rest =>
    if name == key then (name, node) :: rest else (name, old) :: replace key node rest

/-- A table with one more member at its end. -/
def append (table : Table) (key : String) (node : Node) : Table :=
  { table with members := table.members ++ [(key, node)] }

/-- A table with another node under a key that is there already. -/
def set (table : Table) (key : String) (node : Node) : Table :=
  { table with members := replace key node table.members }

/-- Changes the last of some tables. -/
def changeLast (change : Table → Option Table) : List Members → Option (List Members)
  | [] => none
  | [last] => (change ⟨.explicit, last⟩).map fun changed => [changed.members]
  | first :: rest => (changeLast change rest).map (first :: ·)

/-- Changes the table at the end of a path, opening tables of the given kind on the way. -/
def descend (opened : TableKind) (change : Table → Option Table) : List String → Table → Option Table
  | [], table => change table
  | key :: rest, table =>
    match find? key table.members with
    | none =>
      (descend opened change rest ⟨opened, []⟩).map fun inner =>
        table.append key (.table inner.kind inner.members)
    | some (.value _) => none
    | some (.tables items) =>
      (changeLast (descend opened change rest) items).map fun changed => table.set key (.tables changed)
    | some (.table kind members) =>
      -- Dotted keys must not reach into a table that has a header of its own.
      if opened == .dotted && kind == .explicit then none
      else
        (descend opened change rest ⟨kind, members⟩).map fun inner =>
          table.set key (.table inner.kind inner.members)

/-- Sets a key to a value behind a path of dotted keys. -/
def assign (table : Table) (path : List String) (key : String) (value : Json) : Option Table :=
  descend .dotted (fun target =>
    -- A table is filled either through dotted keys or directly, but not both.
    if (target.kind == .dotted) == path.isEmpty then none
    else if (find? key target.members).isSome then none
    else some (target.append key (.value value))) path table

/-- A value for a key behind a path of dotted keys. -/
structure Assignment where
  /-- The dotted keys in front. -/
  path : List String
  /-- The key. -/
  key : String
  /-- The value. -/
  value : Json

/-- Sets keys one after another. -/
def assignAll (table : Table) : List Assignment → Option Table
  | [] => some table
  | first :: rest =>
    (table.assign first.path first.key first.value).bind fun changed => changed.assignAll rest

/-- A header with the assignments below it. -/
structure Section where
  /-- Whether the header stands in double brackets. -/
  repeats : Bool
  /-- The keys of the header but the last. -/
  path : List String
  /-- The last key of the header. -/
  key : String
  /-- The assignments. -/
  assignments : List Assignment

/-- Puts a section in a single pair of brackets into the table around it. -/
def putTable (part : Section) (parent : Table) : Option Table :=
  let filled (members : Members) : Option Node :=
    (assignAll ⟨.explicit, members⟩ part.assignments).map fun table => .table .explicit table.members
  match find? part.key parent.members with
  | none => (filled []).map (parent.append part.key)
  | some (.table .implicit members) =>
    -- A table that was only passed through so far moves to the place of its header.
    (filled members).map fun node =>
      { parent with members := parent.members.filter fun (name, _) => name != part.key }.append
        part.key node
  | some _ => none

/-- Puts a section in double brackets into the table around it. -/
def putItem (part : Section) (parent : Table) : Option Table :=
  (assignAll ⟨.explicit, []⟩ part.assignments).bind fun filled =>
    match find? part.key parent.members with
    | none => some (parent.append part.key (.tables [filled.members]))
    | some (.tables items) => some (parent.set part.key (.tables (items ++ [filled.members])))
    | some _ => none

/-- Puts a section into the document. -/
def putSection (document : Table) (part : Section) : Option Table :=
  descend .implicit (if part.repeats then putItem part else putTable part) part.path document

/-- Puts sections into the document one after another. -/
def putSections (document : Table) : List Section → Option Table
  | [] => some document
  | first :: rest => (document.putSection first).bind fun changed => changed.putSections rest

end Table

mutual

/-- A node as a document. -/
def Node.toJson : Node → Json
  | .value content => content
  | .table _ members => .object (membersToJson members)
  | .tables items => .array (itemsToJson items)

/-- The members of a table as those of an object. -/
def membersToJson : List (String × Node) → List (String × Json)
  | [] => []
  | (key, node) :: rest => (key, node.toJson) :: membersToJson rest

/-- Tables as the items of an array. -/
def itemsToJson : List (List (String × Node)) → List Json
  | [] => []
  | members :: rest => .object (membersToJson members) :: itemsToJson rest

end

/-- The document of assignments in front of the first header, and of sections behind them. -/
def ofSections? (assignments : List Table.Assignment) (sections : List Table.Section) : Option Json :=
  (Table.assignAll ⟨.explicit, []⟩ assignments).bind fun root =>
    (root.putSections sections).map fun document => .object (membersToJson document.members)

end RecordFilter.Toml
