import BoardSmoke.FileTree.Change

namespace BoardSmoke

inductive Shown where
  | folder
  | file (content : Bytes)
  | link (target : Bytes)
  deriving DecidableEq, Repr

namespace FileTree

def shown? : Entry → Option Shown
  | .folder => some .folder
  | .file content _ => some (.file content)
  | .link target => some (.link target)
  | .device _ => none
  | .program _ => none

-- How a place is written from the working folder, if it lies in it or beside it.
def relativePath? (working place : Place) : Option String :=
  if working.isPrefixOf place then
    let below := place.drop working.length
    if below = [] then none else some (Utf8.text (Path.joinNames below))
  else
    let outer := working.dropLast
    if outer.isPrefixOf place ∧ outer ≠ place then
      some ("../" ++ Utf8.text (Path.joinNames (place.drop outer.length)))
    else none

-- Everything in the working folder, and beside it, in the order of the paths.
def listing (tree : FileTree) : List (String × Shown) :=
  let shown := tree.entries.filterMap fun (place, entry) =>
    match relativePath? tree.working place, shown? entry with
    | some path, some shown => some (path, shown)
    | _, _ => none
  shown.mergeSort fun one other => one.1 < other.1 || one.1 = other.1

def sweep (tree : FileTree) (unwanted : Name → Bool) : FileTree :=
  { tree with entries := tree.entries.filter fun (place, entry) =>
      match entry, place.getLast? with
      | .file .., some name => !unwanted name
      | _, _ => true }

end FileTree

end BoardSmoke
