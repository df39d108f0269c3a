import BoardSmoke.Text.Utf8

namespace BoardSmoke

-- The shell of a board, which knows its version and keeps parameters as text.
structure Shell where
  version : Bytes
  parameters : List (String × String)
  -- Whether a command is repeated before its output.
  echo : Bool
  -- Which settings, counted from 0, are accepted without an effect.
  ignored : List Nat
  -- How many settings there were so far.
  settings : Nat
  deriving DecidableEq, Repr

namespace Shell

def prompt : Bytes := Utf8.bytes "nsh> "

def lineEnd : String := "\r\n"

def notFound (name : String) : Bytes :=
  Utf8.bytes ("ERROR: param " ++ name ++ " not found" ++ lineEnd)

-- The rest of `line` after `start`, if it starts so.
def after? (start : String) (line : List Char) : Option (List Char) :=
  if start.toList.isPrefixOf line then some (line.drop start.toList.length) else none

-- A text cut at its last space. Without a space, all of it is the first part.
def cutAtLastSpace (text : List Char) : List Char × List Char :=
  if ' ' ∈ text then
    let last := (text.reverse.takeWhile (· ≠ ' ')).reverse
    (text.take (text.length - last.length - 1), last)
  else (text, [])

-- Gives the parameter `name`, which must be there, a value.
def assign (shell : Shell) (name value : String) : Shell :=
  { shell with parameters := shell.parameters.map fun (other, old) =>
      (other, if other = name then value else old) }

def showParameter (shell : Shell) (name : String) : Bytes :=
  match shell.parameters.lookup name with
  | some value => Utf8.bytes (name ++ " " ++ value ++ " " ++ lineEnd)
  | none => notFound name

def setParameter (shell : Shell) (name value : String) : Bytes × Shell :=
  let counted := { shell with settings := shell.settings + 1 }
  match shell.parameters.lookup name with
  | none => (notFound name, counted)
  | some _ =>
    if shell.settings ∈ shell.ignored then ([], counted) else ([], counted.assign name value)

def execute (shell : Shell) (line : List Char) : Bytes × Shell :=
  if line = "ver all".toList then (shell.version, shell)
  else match after? "param show " line with
    | some name => (shell.showParameter (String.ofList name), shell)
    | none => match after? "param set " line with
      | some rest =>
        let (name, value) := cutAtLastSpace rest
        shell.setParameter (String.ofList name) (String.ofList value)
      | none =>
        (Utf8.bytes ("nsh: " ++ String.ofList line ++ ": command not found" ++ lineEnd), shell)

-- The whole answer to a command: the echo, the output and the prompt.
def answer (shell : Shell) (line : List Char) : Bytes × Shell :=
  let (output, shell) := shell.execute line
  let echo := if shell.echo then Utf8.encode line ++ Utf8.bytes lineEnd else []
  (echo ++ output ++ prompt, shell)

end Shell

inductive Responder where
  -- One reply for each line, and silence after the last one.
  | replies (replies : List Bytes)
  | shell (shell : Shell)
  deriving DecidableEq, Repr

structure Board where
  -- What came after the last complete line.
  unfinished : Bytes
  responder : Responder
  deriving DecidableEq, Repr

namespace Board

def respond (line : Bytes) : Responder → Bytes × Responder
  | .replies [] => ([], .replies [])
  | .replies (reply :: replies) => (reply, .replies replies)
  | .shell shell =>
    let (answer, shell) := shell.answer (Utf8.decode line)
    (answer, .shell shell)

def newline : UInt8 := 0x0A

-- Takes bytes in, and gives the answers to the lines that they complete.
def receive (board : Board) : Bytes → Bytes × Board
  | [] => ([], board)
  | byte :: rest =>
    if byte = newline then
      let (answer, responder) := respond board.unfinished board.responder
      let (answers, board) := receive ⟨[], responder⟩ rest
      (answer ++ answers, board)
    else receive { board with unfinished := board.unfinished ++ [byte] } rest

def parameters (board : Board) : List (String × String) :=
  match board.responder with
  | .replies _ => []
  | .shell shell => shell.parameters

end Board

end BoardSmoke
