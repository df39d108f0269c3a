import BoardSmoke.Channel.Basic
import BoardSmoke.Config
import BoardSmoke.RunError
import BoardSmoke.Script.Run

namespace BoardSmoke

namespace Launch

def searchPath : List Bytes :=
  ["/usr/local/sbin", "/usr/local/bin", "/usr/sbin", "/usr/bin", "/sbin", "/bin"].map Utf8.bytes

-- The longest argument that a program can be given, with the byte that ends it.
def longestArgument : Nat := 131072

-- A null byte cannot be part of a program's name or arguments.
def nullInCommand : Fault := .worded .invalidInput "nul byte found in provided data"

-- What can be run: a program of the system, or a script for the program that it names, which may
-- be given one argument before the script.
inductive Runnable where
  | program (name : String)
  | script (interpreter : Bytes) (option : List Char)

-- The interpreter and its argument from the first line of a script, which starts with a mark.
def interpreter? (content : Bytes) : Option (Bytes × List Char) :=
  match content with
  | 0x23 :: 0x21 :: rest =>
    let line := Utf8.decode (rest.takeWhile (· ≠ 0x0A))
    let blank (c : Char) : Bool := c = ' ' || c = '\t'
    let line := line.dropWhile blank
    let name := line.takeWhile (!blank ·)
    let option := ((line.drop name.length).dropWhile blank).reverse.dropWhile blank
    if name = [] then none else some (Utf8.encode name, option.reverse)
  | _ => none

def runnable (tree : FileTree) (path : Bytes) : Except Errno Runnable := do
  match ← tree.find path with
  | (_, .program name) => .ok (.program name)
  | (_, .file content true) =>
    match interpreter? content with
    | some (name, option) => .ok (.script name option)
    | none => .error .notExecutable
  | _ => .error .accessDenied

-- A program is looked up in one folder after the other. A file there that may not be run does not
-- end the search, but decides how it fails.
def search (tree : FileTree) (name : Bytes) : Bool → List Bytes → Except Errno Bytes
  | denied, [] => .error (if denied then .accessDenied else .noEntry)
  | denied, folder :: folders =>
    let path := Path.join folder name
    match runnable tree path with
    | .ok _ => .ok path
    | .error errno =>
      if errno = .accessDenied then search tree name true folders
      else if errno = .noEntry ∨ errno = .notDirectory then search tree name denied folders
      else .error errno

-- The path of the program that `tool` names. A name with a slash is a path already.
def programPath (tree : FileTree) (tool : Bytes) : Except Errno Bytes :=
  if tool = [] then .error .noEntry
  else if Path.slash ∈ tool then .ok tool
  else if FileTree.longestName < tool.length then .error .nameTooLong
  else search tree tool false searchPath

def runShell (tree : FileTree) (arguments : List String) : Outcome :=
  match arguments with
  | [] => .done tree 0
  | "-c" :: text :: rest =>
    Script.run text.toList (rest.headD "sh") rest.tail tree
  | "-e" :: rest => runFile tree rest
  | "-x" :: rest => runFile tree rest
  | "-" :: rest => runFile tree rest
  | first :: rest =>
    if first.startsWith "--" then .complains tree 2 "sh: 0: Illegal option --"
    else if first.startsWith "-" then .complains tree 2 ("sh: 0: Illegal option " ++ first)
    else runFile tree (first :: rest)
where
  runFile (tree : FileTree) : List String → Outcome
    | [] => .done tree 0
    | path :: arguments =>
      match tree.readFile (Utf8.bytes path) with
      | .ok content => Script.run (Utf8.decode content) path arguments tree
      | .error .isDirectory => .done tree 0
      | .error _ => .complains tree 2 ("sh: 0: cannot open " ++ path ++ ": No such file")

def runProgram (tree : FileTree) (name : String) (arguments : List String) : Outcome :=
  if name = "sh" then runShell tree arguments
  else (SystemProgram.run? name arguments [] tree).getD (.done tree 0)

-- Runs what is at `path`. A script needs its interpreter, which must be a program of the system.
def runPath (tree : FileTree) (path : Bytes) (arguments : List String) :
    Except Errno Outcome := do
  match ← runnable tree path with
  | .program name => .ok (runProgram tree name arguments)
  | .script interpreter option =>
    match ← runnable tree interpreter with
    | .program name =>
      let options := if option = [] then [] else [String.ofList option]
      .ok (runProgram tree name (options ++ Utf8.text path :: arguments))
    | .script .. => .error .notExecutable

def launch (tree : FileTree) (tool : String) (arguments : List String) :
    Except Fault Outcome := do
  if (tool :: arguments).any (·.toList.contains '\x00') then .error nullInCommand
  else
    let path ← (programPath tree (Utf8.bytes tool)).mapError .system
    if arguments.any (longestArgument ≤ ·.utf8ByteSize) then .error (.system .argumentsTooLong)
    else (runPath tree path arguments).mapError .system

end Launch

structure Uploader where
  tool : String
  target : String
  deriving DecidableEq, Repr

-- An operation that launches a program and tells how it ended.
structure Launcher (ω : Type) where
  launch : String → List String → ω → Except Fault ExitStatus × ω

namespace Uploader

variable {ω : Type}

def ofConfig (config : Config) : Uploader := ⟨config.buildTool, config.buildTarget⟩

-- Runs the tool on the target. Only a tool that succeeds has uploaded it.
def upload (uploader : Uploader) (journal : Journal ω) (launcher : Launcher ω) (world : ω) :
    Except RunError Unit × ω :=
  let log (level : Level) (text : String) : ω → ω := journal.note ⟨level, .upload, text⟩
  let world := log .info ("Flashing target: " ++ uploader.target) world
  let world := log .debug
    ("Running " ++ uploader.tool ++ " " ++ uploader.target ++ " upload") world
  match launcher.launch uploader.tool [uploader.target, "upload"] world with
  | (.error fault, world) => (.error (.toolNotLaunched uploader.tool fault), world)
  | (.ok status, world) =>
    if status.isSuccess then
      (.ok (), log .debug (uploader.tool ++ " exited with " ++ status.text) world)
    else (.error (.uploadFailed uploader.target status), world)

end Uploader

end BoardSmoke
