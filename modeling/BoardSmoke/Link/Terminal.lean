import BoardSmoke.Board
import BoardSmoke.Channel.Basic
import BoardSmoke.FileTree.Basic
import BoardSmoke.RunError

namespace BoardSmoke

structure Terminal where
  name : String
  baudRate : Nat
  readTimeout : Duration
  input : Bytes
  -- What was written and is not yet fetched at the far end.
  output : Bytes
  boot : Option Bytes
  board : Board
  connected : Bool
  deriving DecidableEq, Repr

namespace Terminal

def timedOut : Fault := .worded .timedOut "Operation timed out"
def hungUp : Fault := .worded .brokenPipe "Broken pipe"
def inputOutput : Fault := .worded .other "I/O error"

def write (line : Terminal) (bytes : Bytes) : Except Fault Unit × Terminal :=
  if bytes = [] then (.ok (), line)
  else if !line.connected then (.error hungUp, line)
  else
    let (answers, board) := line.board.receive bytes
    (.ok (), { line with output := line.output ++ bytes, input := line.input ++ answers, board })

def available (line : Terminal) : Except Fault Nat × Terminal :=
  if line.connected then (.ok line.input.length, line) else (.error inputOutput, line)

-- Waits until a byte is there, but not longer than the read timeout.
def read (line : Terminal) (room : Nat) : Except Fault Reading × Terminal :=
  if !line.connected then (.error hungUp, line)
  else if line.input = [] then (.error timedOut, line)
  else
    let taken := line.input.take room
    (.ok ⟨taken, taken.length⟩, { line with input := line.input.drop room })

def reset (line : Terminal) : Except Fault Unit × Terminal :=
  if line.connected then (.ok (), { line with input := line.boot.getD [], boot := none })
  else (.error inputOutput, line)

-- Output that was accepted is on its way, so there is none to discard.
def discardOutput (line : Terminal) : Except Fault Unit × Terminal :=
  if line.connected then (.ok (), line) else (.error inputOutput, line)

def arrive (line : Terminal) (bytes : Bytes) : Terminal :=
  { line with input := line.input ++ bytes }

def fetch (line : Terminal) (count : Nat) : Bytes × Terminal :=
  (line.output.take count, { line with output := line.output.drop count })

def hangUp (line : Terminal) : Terminal := { line with connected := false }

-- The baud rate, as far as the line can still be asked.
def baudRate? (line : Terminal) : Option Nat :=
  if line.connected then some line.baudRate else none

def description (line : Terminal) : String :=
  let rate := match line.baudRate? with
    | some rate => "Some(" ++ toString rate ++ ")"
    | none => "None"
  "SerialChannel \x7b name: " ++ Text.quoted? (some line.name) ++ ", baud_rate: " ++ rate ++
    ", timeout: " ++ line.readTimeout.text ++ " \x7d"

def openText (errno : Errno) : String :=
  if errno = .linkLoop then "Too many symbolic links encountered"
  else if errno = .notTerminal then "Not a typewriter"
  else errno.text

def openKind (errno : Errno) : SerialFaultKind :=
  if errno = .noEntry ∨ errno = .accessDenied ∨ errno = .alreadyExists then .fault errno.kind
  else .unknown

def openFault (errno : Errno) : SerialFault := ⟨openKind errno, openText errno⟩

def checkDevice (tree : FileTree) (path : Bytes) : Except Errno Unit :=
  if (0 : UInt8) ∈ path then .error .invalidArgument
  else match tree.find path with
    | .error errno => .error errno
    | .ok (_, .folder) => .error .isDirectory
    | .ok (_, .device .terminal) => .ok ()
    | .ok _ => .error .notTerminal

end Terminal

end BoardSmoke
