import BoardSmoke.FileTree.Basic

namespace BoardSmoke.FileTree

-- A null byte cannot be part of a path.
def nullInPath : Fault := .worded .invalidInput "file name contained an unexpected NUL byte"

-- Looks at a path before it is handed to the operating system.
def checked (path : Bytes) (change : Except Errno α) : Except Fault α :=
  if (0 : UInt8) ∈ path then .error nullInPath else change.mapError .system

-- Slashes at the end of a path count for its length only.
def makeFolder (tree : FileTree) (path : Bytes) : Except Errno FileTree :=
  if longestPath < path.length then .error .nameTooLong
  else do
    let bare := Path.dropSlashes path
    match ← tree.locate (if bare = [] then path else bare) false with
    | .taken .. => .error .alreadyExists
    | .free folder name => .ok (tree.put (folder ++ [name]) .folder)

-- Makes the folder `path`, and before it the folders that it lacks among `enclosing`, which are
-- given innermost first.
def makeFoldersFrom (tree : FileTree) (path : Bytes) :
    List Bytes → Except Fault Unit × FileTree
  | [] => if path = [] then (.ok (), tree) else settle tree
  | outer :: enclosing =>
    if path = [] then (.ok (), tree)
    else match checked path (tree.makeFolder path) with
      | .ok tree => (.ok (), tree)
      | .error fault =>
        if fault.kind = .notFound then
          match makeFoldersFrom tree outer enclosing with
          | (.ok (), tree) => settle tree
          | failed => failed
        else if tree.isFolder path then (.ok (), tree)
        else (.error fault, tree)
where
  settle (tree : FileTree) : Except Fault Unit × FileTree :=
    match checked path (tree.makeFolder path) with
    | .ok tree => (.ok (), tree)
    | .error fault => if tree.isFolder path then (.ok (), tree) else (.error fault, tree)

-- Makes a folder and the folders that it lies in. Folders that are there already are fine.
def makeFolders (tree : FileTree) (path : Bytes) : Except Fault Unit × FileTree :=
  tree.makeFoldersFrom path (Path.enclosing path)

def overwrite (tree : FileTree) (path content : Bytes) (executable : Bool) :
    Except Errno FileTree := do
  match ← tree.locate path true with
  | .free folder name => .ok (tree.put (folder ++ [name]) (.file content executable))
  | .taken _ .folder => .error .isDirectory
  | .taken _ (.device .full) => if content = [] then .ok tree else .error .noSpace
  | .taken _ (.device _) => .ok tree
  | .taken place (.file _ executable) => .ok (tree.put place (.file content executable))
  | .taken place (.program _) => .ok (tree.put place (.file content true))
  | .taken _ (.link _) => .error .linkLoop

def writeFile (tree : FileTree) (path content : Bytes) : Except Fault Unit × FileTree :=
  match checked path (tree.overwrite path content false) with
  | .ok tree => (.ok (), tree)
  | .error fault => (.error fault, tree)

def readFile (tree : FileTree) (path : Bytes) : Except Errno Bytes := do
  match ← tree.find path with
  | (_, .file content _) => .ok content
  | (_, .folder) => .error .isDirectory
  | _ => .ok []

def makeLink (tree : FileTree) (path target : Bytes) : Except Errno FileTree := do
  match ← tree.locate path false with
  | .taken .. => .error .alreadyExists
  | .free folder name => .ok (tree.put (folder ++ [name]) (.link target))

def remove (tree : FileTree) (path : Bytes) : Except Errno FileTree := do
  match ← tree.locate path false with
  | .taken place _ => .ok (tree.prune place)
  | .free .. => .error .noEntry

end BoardSmoke.FileTree
