/-! Files by their paths: what is found at a path, and a directory tree held in memory. -/

namespace RecordFilter

/-- What is found at a path. -/
inductive FileState
  /-- Nothing. -/
  | missing
  /-- Something that cannot be read, such as a directory. -/
  | unreadable
  /-- A file with its content. -/
  | content (bytes : ByteArray)

/-- A file or a directory. -/
inductive FileTree
  /-- A file with its content. -/
  | file (bytes : ByteArray)
  /-- A directory with its entries. -/
  | directory (entries : List (String × FileTree))

namespace FileTree

/-- The directory without entries. -/
def empty : FileTree := directory []

/-- The entry of a directory with the given name. -/
def lookupName (name : String) : List (String × FileTree) → Option FileTree
  | [] => none
  | (other, tree) :: rest => if other == name then some tree else lookupName name rest

/-- The entries of a directory with one of them set. -/
def setEntry (name : String) (tree : FileTree) : List (String × FileTree) → List (String × FileTree)
  | [] => [(name, tree)]
  | (other, old) :: rest =>
    if other == name then (name, tree) :: rest else (other, old) :: setEntry name tree rest

/-- The tree with something placed at a path below it, in directories that are made on the way. -/
def place (leaf : FileTree) : List String → FileTree → FileTree
  | [], _ => leaf
  | name :: rest, directory entries =>
    directory (setEntry name (place leaf rest ((lookupName name entries).getD empty)) entries)
  | name :: rest, file _ => directory [(name, place leaf rest empty)]

/-- What a path leads to from a directory, given the directories around it from the inside out. -/
def walk (around : List FileTree) (here : FileTree) : List String → Option FileTree
  | [] => some here
  | name :: rest =>
    match here with
    | file _ => none
    | directory entries =>
      if name == "" || name == "." then walk around here rest
      else if name == ".." then
        match around with
        | [] => walk [] empty rest
        | parent :: others => walk others parent rest
      else (lookupName name entries).bind fun next => walk (here :: around) next rest

/-- What is found at a relative path in a directory. -/
def lookup (root : FileTree) (path : String) : FileState :=
  -- An absolute path leads out of the tree.
  if path == "" || path.startsWith "/" then .missing
  else
    match walk [] root (path.splitOn "/") with
    | none => .missing
    | some (directory _) => .unreadable
    | some (file bytes) => .content bytes

end FileTree

end RecordFilter
