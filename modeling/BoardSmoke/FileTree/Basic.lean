import BoardSmoke.Fault.Basic
import BoardSmoke.FileTree.Path

namespace BoardSmoke

abbrev Place := List Name

inductive Device where
  -- Takes everything that is written.
  | sink
  -- Has no room for what is written.
  | full
  -- The line to a board.
  | terminal
  deriving DecidableEq, Repr

inductive Entry where
  | folder
  | file (content : Bytes) (executable : Bool)
  | link (target : Bytes)
  | device (device : Device)
  -- A program of the system, known by its name.
  | program (name : String)
  deriving DecidableEq, Repr

structure FileTree where
  entries : List (Place × Entry)
  -- The folder that relative paths start from.
  working : Place
  deriving DecidableEq, Repr

-- Where a path leads: to an entry, or to a free name in a folder.
inductive Spot where
  | taken (place : Place) (entry : Entry)
  | free (folder : Place) (name : Name)
  deriving DecidableEq, Repr

namespace FileTree

def entry? (tree : FileTree) (place : Place) : Option Entry :=
  if place = [] then some .folder else tree.entries.lookup place

def put (tree : FileTree) (place : Place) (entry : Entry) : FileTree :=
  { tree with entries := (place, entry) :: tree.entries.filter (·.1 ≠ place) }

def prune (tree : FileTree) (place : Place) : FileTree :=
  { tree with entries := tree.entries.filter fun (other, _) => !place.isPrefixOf other }

def longestName : Nat := 255

def longestPath : Nat := 4095

def linkBudget : Nat := 40

-- Walks from the folder `here` along `names`. The last name may be free; a symbolic link there is
-- followed only on demand. To follow a link is to jump to where its target starts.
def walkNames (tree : FileTree) (follow : Bool) (jump : Place → List Name → Except Errno Spot)
    (here : Place) : List Name → Except Errno Spot
  | [] => .ok (.taken here .folder)
  | name :: rest =>
    if name = Path.dot then walkNames tree follow jump here rest
    else if name = Path.dotDot then walkNames tree follow jump here.dropLast rest
    else if longestName < name.length then .error .nameTooLong
    else
      let place := here ++ [name]
      match tree.entry? place with
      | none => if rest = [] then .ok (.free here name) else .error .noEntry
      | some .folder => walkNames tree follow jump place rest
      | some (.link target) =>
        if rest = [] ∧ !follow then .ok (.taken place (.link target))
        else jump (if Path.isAbsolute target then [] else here) (Path.names target ++ rest)
      | some entry => if rest = [] then .ok (.taken place entry) else .error .notDirectory

-- A walk that follows at most so many links.
def walk (tree : FileTree) (follow : Bool) : Nat → Place → List Name → Except Errno Spot
  | 0, here, names => tree.walkNames follow (fun _ _ => .error .linkLoop) here names
  | links + 1, here, names =>
    tree.walkNames follow (fun start target => tree.walk follow links start target) here names

def locate (tree : FileTree) (path : Bytes) (follow : Bool) : Except Errno Spot :=
  if path = [] then .error .noEntry
  else if longestPath < path.length then .error .nameTooLong
  else
    let start := if Path.isAbsolute path then [] else tree.working
    walk tree follow linkBudget start (Path.names path)

def find (tree : FileTree) (path : Bytes) : Except Errno (Place × Entry) := do
  match ← tree.locate path true with
  | .taken place entry => .ok (place, entry)
  | .free .. => .error .noEntry

def isFolder (tree : FileTree) (path : Bytes) : Bool :=
  match tree.find path with
  | .ok (_, .folder) => true
  | _ => false

end FileTree

end BoardSmoke
