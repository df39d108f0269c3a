import BoardSmoke.Board
import BoardSmoke.Channel.Basic

namespace BoardSmoke

-- How one call of an operation goes. When no step is left, calls are plain.
inductive AvailableStep where
  | plain
  | fails (fault : Fault)
  | reports (count : Nat)
  -- Bytes that arrive just before.
  | arrives (bytes : Bytes)
  deriving DecidableEq, Repr

inductive ReadStep where
  | plain
  | fails (fault : Fault)
  | atMost (count : Nat)
  -- Other bytes than the buffered ones, and perhaps another count than theirs.
  | yields (bytes : Bytes) (claim : Option Nat)
  deriving DecidableEq, Repr

inductive PlainStep where
  | plain
  | fails (fault : Fault)
  deriving DecidableEq, Repr

structure Scripted where
  buffer : Bytes
  boot : Option Bytes
  -- The most that a plain read takes.
  longestRead : Option Nat
  availables : List AvailableStep
  reads : List ReadStep
  writes : List PlainStep
  resets : List PlainStep
  board : Board
  calls : List String
  deriving DecidableEq, Repr

namespace Scripted

def called (link : Scripted) (call : String) : Scripted :=
  { link with calls := link.calls ++ [call] }

def hexByte (byte : UInt8) : List Char :=
  [Nat.digitChar (byte.toNat / 16), Nat.digitChar (byte.toNat % 16)]

def hex (bytes : Bytes) : String := String.ofList (bytes.flatMap hexByte)

def available (link : Scripted) : Except Fault Nat × Scripted :=
  let step := link.availables.headD .plain
  let link := { link with availables := link.availables.tail }
  let report (count : Nat) (link : Scripted) : Except Fault Nat × Scripted :=
    (.ok count, link.called ("avail " ++ toString count))
  match step with
  | .fails fault => (.error fault, link.called "avail!")
  | .reports count => report count link
  | .plain => report link.buffer.length link
  | .arrives bytes =>
    let link := { link with buffer := link.buffer ++ bytes }
    report link.buffer.length link

def read (link : Scripted) (room : Nat) : Except Fault Reading × Scripted :=
  let step := link.reads.headD .plain
  let link := { link with reads := link.reads.tail }
  let yield (reading : Reading) (link : Scripted) : Except Fault Reading × Scripted :=
    (.ok reading, link.called ("read " ++ toString room ++ " " ++ toString reading.count))
  let take (count : Nat) : Except Fault Reading × Scripted :=
    let taken := link.buffer.take (min count room)
    yield ⟨taken, taken.length⟩ { link with buffer := link.buffer.drop taken.length }
  match step with
  | .fails fault => (.error fault, link.called "read!")
  | .yields bytes claim =>
    let placed := bytes.take room
    yield ⟨placed, claim.getD placed.length⟩ link
  | .atMost count => take count
  | .plain => take (link.longestRead.getD room)

def write (link : Scripted) (bytes : Bytes) : Except Fault Unit × Scripted :=
  let step := link.writes.headD .plain
  let link := { link with writes := link.writes.tail }
  match step with
  | .fails fault => (.error fault, link.called "write!")
  | .plain =>
    let (answers, board) := link.board.receive bytes
    let link := link.called ("write " ++ hex bytes)
    (.ok (), { link with buffer := link.buffer ++ answers, board })

def reset (link : Scripted) : Except Fault Unit × Scripted :=
  let step := link.resets.headD .plain
  let link := { link with resets := link.resets.tail }
  match step with
  | .fails fault => (.error fault, link.called "reset!")
  | .plain =>
    (.ok (), { link.called "reset" with buffer := link.boot.getD [], boot := none })

def close (link : Scripted) : Scripted := link.called "close"

end Scripted

end BoardSmoke
