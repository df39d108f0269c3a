import BoardSmoke.ExitStatus
import BoardSmoke.FileTree.Change
import BoardSmoke.Text.Blank
import BoardSmoke.Text.Search

namespace BoardSmoke

inductive Ending where
  | exit (code : Nat)
  | signal (number : Nat)
  deriving DecidableEq, Repr

def Ending.status : Ending → ExitStatus
  | .exit code => .ofCode code
  | .signal number => .ofSignal number

structure Outcome where
  ending : Ending
  output : Bytes
  errors : Bytes
  tree : FileTree

namespace Outcome

def done (tree : FileTree) (code : Nat) : Outcome := ⟨.exit code, [], [], tree⟩

def prints (tree : FileTree) (text : String) : Outcome := ⟨.exit 0, Utf8.bytes text, [], tree⟩

def complains (tree : FileTree) (code : Nat) (text : String) : Outcome :=
  ⟨.exit code, [], Utf8.bytes (text ++ "\n"), tree⟩

end Outcome

namespace SystemProgram

-- Lines of bytes, where the last one need not be ended.
def countLines (accepts : List Char → Bool) (input : Bytes) : Nat :=
  ((Text.lines (Utf8.decode input)).filter accepts).length

-- Counts the lines that hold a text, where a lone dot stands for any character.
def grep (arguments : List String) (input : Bytes) (tree : FileTree) : Outcome :=
  match arguments with
  | ["-c", pattern] =>
    let accepts (line : List Char) : Bool :=
      if pattern = "." then line ≠ [] else Text.holds pattern.toList line
    let count := countLines accepts input
    { Outcome.prints tree (toString count ++ "\n") with
      ending := .exit (if count = 0 then 1 else 0) }
  | _ => .complains tree 2 "grep: unsupported arguments"

def backslash : UInt8 := 0x5C

-- The byte that a letter after a backslash stands for.
def letter? (byte : UInt8) : Option UInt8 :=
  [('a', 0x07), ('b', 0x08), ('e', 0x1B), ('f', 0x0C), ('n', 0x0A), ('r', 0x0D), ('t', 0x09),
   ('v', 0x0B), ('\\', backslash)].lookup (Char.ofNat byte.toNat)

def isOctal (byte : UInt8) : Bool := 0x30 ≤ byte && byte ≤ 0x37

-- The value of at most three octal digits at the front, and their number.
def octal (bytes : Bytes) : UInt8 × Nat :=
  let digits := (bytes.take 3).takeWhile isOctal
  (digits.foldl (fun value digit => value * 8 + (digit - 0x30)) 0, digits.length)

-- What the bytes after a backslash stand for, and how many of them are used up.
def escaped (bytes : Bytes) : UInt8 × Nat :=
  match bytes with
  | [] => (backslash, 0)
  | byte :: rest =>
    if byte = 0x30 then
      let (value, count) := octal rest
      (value, count + 1)
    else if isOctal byte then octal bytes
    else match letter? byte with
      | some value => (value, 1)
      | none => (backslash, 0)

-- The text with its escapes replaced, and whether printing goes on after it.
def unescape (bytes : Bytes) : Bytes × Bool :=
  match bytes with
  | [] => ([], true)
  | byte :: rest =>
    if byte = backslash then
      if rest.head? = some 0x63 then ([], false)
      else
        let (value, count) := escaped rest
        let (text, more) := unescape (rest.drop count)
        (value :: text, more)
    else
      let (text, more) := unescape rest
      (byte :: text, more)
termination_by bytes.length

-- Prints the arguments with a space between them. The echo of the shell replaces escapes.
def echo (interprets : Bool) (arguments : List String) (tree : FileTree) : Outcome :=
  let (lineEnd, words) := match arguments with
    | "-n" :: words => ("", words)
    | words => ("\n", words)
  let text := " ".intercalate words
  if interprets then
    let (output, more) := unescape (Utf8.bytes text)
    { Outcome.done tree 0 with output := if more then output ++ Utf8.bytes lineEnd else output }
  else .prints tree (text ++ lineEnd)

def entryAt (tree : FileTree) (path : String) : Option Entry :=
  match tree.find (Utf8.bytes path) with
  | .ok (_, entry) => some entry
  | .error _ => none

def isExecutable : Entry → Bool
  | .folder => true
  | .file _ executable => executable
  | .program _ => true
  | _ => false

def unaryTest? (tree : FileTree) (operator operand : String) : Option Bool :=
  let entry := entryAt tree operand
  if operator = "!" then some (operand = "")
  else if operator = "-n" then some (operand ≠ "")
  else if operator = "-z" then some (operand = "")
  else if operator ∈ ["-e", "-r", "-w"] then some entry.isSome
  else if operator = "-f" then
    some (match entry with | some (.file ..) => true | some (.program _) => true | _ => false)
  else if operator = "-d" then some (entry = some .folder)
  else if operator = "-x" then some (entry.any isExecutable)
  else if operator = "-s" then
    some (match entry with
      | some (.file content _) => content ≠ [] | some .folder => true | _ => false)
  else if operator = "-h" ∨ operator = "-L" then
    some (match tree.locate (Utf8.bytes operand) false with
      | .ok (.taken _ (.link _)) => true | _ => false)
  else if operator ∈ ["-b", "-g", "-k", "-p", "-u", "-G", "-N", "-O", "-S"] then some false
  else if operator = "-c" then
    some (match entry with | some (.device _) => true | _ => false)
  else none

-- Decides a condition: code 0 if it holds, 1 if not, 2 if it makes no sense.
def test (arguments : List String) (tree : FileTree) : Outcome :=
  let decide (holds : Bool) : Outcome := .done tree (if holds then 0 else 1)
  match arguments with
  | [] => decide false
  | [operand] => decide (operand ≠ "")
  | [operator, operand] =>
    match unaryTest? tree operator operand with
    | some holds => decide holds
    | none =>
      .complains tree 2 (if operator = "-t" then "test: invalid integer '" ++ operand ++ "'"
        else "test: missing argument after '" ++ operand ++ "'")
  | [left, "=", right] => decide (left = right)
  | [left, "!=", right] => decide (left ≠ right)
  | ["!", operator, operand] =>
    match unaryTest? tree operator operand with
    | some holds => decide (!holds)
    | none => .complains tree 2 ("test: missing argument after '" ++ operand ++ "'")
  | _ => .complains tree 2 "test: too many arguments"

def faultText : Fault → String
  | .system errno => errno.text
  | fault => fault.message

-- Applies a change to every path, going on after a failure.
def forPaths (program verb : String) (change : FileTree → Bytes → Except Fault Unit × FileTree)
    (paths : List String) (tree : FileTree) : Outcome :=
  paths.foldl (fun outcome path =>
    match change outcome.tree (Utf8.bytes path) with
    | (.ok (), tree) => { outcome with tree }
    | (.error fault, tree) =>
      let text := program ++ ": " ++ verb ++ " '" ++ path ++ "': " ++ faultText fault ++ "\n"
      { outcome with ending := .exit 1, errors := outcome.errors ++ Utf8.bytes text, tree })
    (.done tree 0)

def ofResult (tree : FileTree) : Except Errno FileTree → Except Fault Unit × FileTree
  | .ok tree => (.ok (), tree)
  | .error errno => (.error (.system errno), tree)

def mkdir (arguments : List String) (tree : FileTree) : Outcome :=
  match arguments with
  | "-p" :: paths => forPaths "mkdir" "cannot create directory" FileTree.makeFolders paths tree
  | paths =>
    forPaths "mkdir" "cannot create directory"
      (fun tree path => ofResult tree (tree.makeFolder path)) paths tree

def touch (arguments : List String) (tree : FileTree) : Outcome :=
  forPaths "touch" "cannot touch" (fun tree path =>
    match tree.locate path true with
    | .ok (.taken ..) => (.ok (), tree)
    | _ => tree.writeFile path []) arguments tree

def ln (arguments : List String) (tree : FileTree) : Outcome :=
  match arguments with
  | ["-s", target, path] =>
    forPaths "ln" "failed to create symbolic link"
      (fun tree path => ofResult tree (tree.makeLink path (Utf8.bytes target))) [path] tree
  | _ => .complains tree 1 "ln: unsupported arguments"

def rm (arguments : List String) (tree : FileTree) : Outcome :=
  let options := arguments.takeWhile (·.startsWith "-")
  let force := options.any (·.contains 'f')
  forPaths "rm" "cannot remove" (fun tree path =>
    match ofResult tree (tree.remove path) with
    | (.error fault, tree) => (if force then .ok () else .error fault, tree)
    | removed => removed) (arguments.drop options.length) tree

def cat (arguments : List String) (input : Bytes) (tree : FileTree) : Outcome :=
  if arguments = [] then { Outcome.done tree 0 with output := input }
  else arguments.foldl (fun outcome path =>
    match tree.readFile (Utf8.bytes path) with
    | .ok content => { outcome with output := outcome.output ++ content }
    | .error errno =>
      let text := "cat: " ++ path ++ ": " ++ errno.text ++ "\n"
      { outcome with ending := .exit 1, errors := outcome.errors ++ Utf8.bytes text })
    (.done tree 0)

-- Builds targets without any rules: a target that is there needs nothing, and the first one that
-- is not there ends the build.
def make (arguments : List String) (tree : FileTree) : Outcome :=
  let goals := arguments.filter fun argument => !argument.startsWith "-" && !argument.contains '='
  build tree "" goals
where
  build (tree : FileTree) (said : String) : List String → Outcome
    | [] => .prints tree said
    | goal :: goals =>
      if goal = "" then
        { Outcome.complains tree 2 "make: *** empty string invalid as file name.  Stop." with
          output := Utf8.bytes said }
      else if (entryAt tree goal).isSome then
        build tree (said ++ "make: Nothing to be done for '" ++ goal ++ "'.\n") goals
      else
        { Outcome.complains tree 2 ("make: *** No rule to make target '" ++ goal ++ "'.  Stop.")
          with output := Utf8.bytes said }

def pwd (tree : FileTree) : Outcome :=
  .prints tree ("/" ++ Utf8.text (Path.joinNames tree.working) ++ "\n")

-- A stretch of time is a number, perhaps with a unit.
def sleep (arguments : List String) (tree : FileTree) : Outcome :=
  match arguments.find? fun argument => !(argument.toList.any Char.isDigit) with
  | some argument => .complains tree 1 ("sleep: invalid time interval '" ++ argument ++ "'")
  | none => .done tree 0

def run? (name : String) (arguments : List String) (input : Bytes) (tree : FileTree) :
    Option Outcome :=
  match name with
  | "true" => some (.done tree 0)
  | "false" => some (.done tree 1)
  | "test" => some (test arguments tree)
  | "[" =>
    some (if arguments.getLast? = some "]" then test arguments.dropLast tree
      else .complains tree 2 "[: missing ']'")
  | "echo" => some (echo false arguments tree)
  | "grep" => some (grep arguments input tree)
  | "mkdir" => some (mkdir arguments tree)
  | "touch" => some (touch arguments tree)
  | "ln" => some (ln arguments tree)
  | "rm" => some (rm arguments tree)
  | "cat" => some (cat arguments input tree)
  | "make" => some (make arguments tree)
  | "pwd" => some (pwd tree)
  | "sleep" => some (sleep arguments tree)
  | _ => none

def names : List String :=
  ["true", "false", "test", "[", "echo", "grep", "mkdir", "touch", "ln", "rm", "cat", "make", "pwd",
   "sleep", "sh"]

end SystemProgram

end BoardSmoke
