import BoardSmoke.Text.Utf8

namespace BoardSmoke

abbrev Name := Bytes

namespace Path

def slash : UInt8 := 0x2F

-- The name that stays in a folder, and the one that goes up.
def dot : Name := [0x2E]
def dotDot : Name := [0x2E, 0x2E]

def isAbsolute (path : Bytes) : Bool := path.head? = some slash

-- The stretches between the slashes of a path, empty ones included.
def pieces : Bytes → Name × List Name
  | [] => ([], [])
  | byte :: rest =>
    let (name, names) := pieces rest
    if byte = slash then ([], name :: names) else (byte :: name, names)

-- The names to walk through, in order. Repeated slashes count once, and a slash at the end asks
-- for a folder, as a dot there does.
def names (path : Bytes) : List Name :=
  let (name, rest) := pieces path
  let names := (name :: rest).filter (· ≠ [])
  if names ≠ [] ∧ path.getLast? = some slash then names ++ [dot] else names

def dropSlashes (path : Bytes) : Bytes := (path.reverse.dropWhile (· = slash)).reverse

def joinNames : List Name → Bytes
  | [] => []
  | [name] => name
  | name :: rest => name ++ slash :: joinNames rest

def join (folder : Bytes) (name : Name) : Bytes :=
  if folder = [] ∨ folder.getLast? = some slash then folder ++ name
  else folder ++ slash :: name

-- The names of a path less the dots that stay where they are. A dot at the front of a relative
-- path is kept.
def components (path : Bytes) : List Name :=
  let (name, rest) := pieces path
  let names := (name :: rest).filter (· ≠ [])
  if isAbsolute path then names.filter (· ≠ dot)
  else match names with
    | [] => []
    | first :: rest => first :: rest.filter (· ≠ dot)

-- The paths of the folders that hold `path`, innermost first. They end at the root folder, or at
-- the folder that a relative path starts from, whose path is empty.
def enclosing (path : Bytes) : List Bytes :=
  let names := components path
  let start := if isAbsolute path then [slash] else []
  (List.range names.length).reverse.map fun count => start ++ joinNames (names.take count)

end Path

end BoardSmoke
