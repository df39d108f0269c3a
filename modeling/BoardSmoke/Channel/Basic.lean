import BoardSmoke.Duration
import BoardSmoke.Fault.Basic
import BoardSmoke.Record
import BoardSmoke.Session
import BoardSmoke.Text.Utf8

namespace BoardSmoke

structure Journal (ω : Type) where
  note : Record → ω → ω

structure Clock (ω : Type) where
  now : ω → Nat × ω
  sleep : Duration → ω → ω

-- The outcome of one read: the bytes put at the front of the buffer that was offered, and the
-- number of bytes that the channel says it read.
structure Reading where
  placed : Bytes
  count : Nat
  deriving DecidableEq, Repr

structure Channel (ω : Type) extends Journal ω, Clock ω where
  write : Bytes → ω → Except Fault Unit × ω
  -- How many bytes are buffered for reading.
  available : ω → Except Fault Nat × ω
  -- Reads into a buffer with room for this many bytes.
  read : Nat → ω → Except Fault Reading × ω
  reset : ω → Except Fault Unit × ω
  close : ω → ω
  -- A bound on the rounds of each loop that the world may keep going.
  patience : Nat

namespace Channel

variable {ω ε : Type}

-- The same channel, lent out: closing the loan does nothing.
def lent (channel : Channel ω) : Channel ω := { channel with close := id }

def log (channel : Channel ω) (level : Level) (source : Source) (text : String) :
    Session ω ε Unit :=
  Session.act (channel.note ⟨level, source, text⟩)

-- A buffer after bytes were put at its front. What does not fit is not put.
def overlay (buffer placed : Bytes) : Bytes :=
  placed.take buffer.length ++ buffer.drop placed.length

-- Fills `buffer` from the front with at most `rounds` reads, and returns the part that was filled.
-- A read that yields nothing or times out ends it; an interrupted read is made again.
def fill (channel : Channel ω) : Nat → Bytes → Session ω Fault Bytes
  | _, [] => pure []
  | 0, _ :: _ => Session.unfinished
  | rounds + 1, buffer@(_ :: _) => do
    match ← Session.attempt (channel.read buffer.length) with
    | .ok reading =>
      if reading.count = 0 then pure []
      else
        let buffer := overlay buffer reading.placed
        let rest ← fill channel rounds (buffer.drop reading.count)
        pure (buffer.take reading.count ++ rest)
    | .error fault =>
      if fault.isTimeout then pure []
      else if fault.isInterruption then fill channel rounds buffer
      else Session.fail fault

-- The bytes that are buffered right now: as many as the channel reports, unless its reads end
-- before that.
def readAvailable (channel : Channel ω) : Session ω Fault Bytes := do
  let pending ← Session.call channel.available
  fill channel channel.patience (List.replicate pending 0)

end Channel

end BoardSmoke
