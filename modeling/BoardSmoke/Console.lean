import BoardSmoke.Channel.Basic
import BoardSmoke.Parameter
import BoardSmoke.Text.Quoted

namespace BoardSmoke

namespace Clock

-- Clock readings stay below this one.
def limit : Nat := Nat.pow 2 63 * Duration.perSecond

def deadline? (start : Nat) (window : Duration) : Option Nat :=
  if start + window.nanoseconds < limit then some (start + window.nanoseconds) else none

end Clock

namespace Console

variable {ω : Type}

def pollInterval : Duration := Duration.ofMilliseconds 100

-- Polls the channel until the clock reaches the deadline. A poll that finds bytes reads them, one
-- that finds none sleeps. Each read is decoded on its own.
def collect (channel : Channel ω) (deadline : Nat) : Nat → Session ω Fault String
  | 0 => do
    if (← Session.query channel.now) < deadline then Session.unfinished else pure ""
  | rounds + 1 => do
    if (← Session.query channel.now) < deadline then
      if 0 < (← Session.call channel.available) then
        let bytes ← channel.readAvailable
        channel.log .trace .console ("Drained " ++ toString bytes.length ++ " bytes")
        let rest ← collect channel deadline rounds
        pure (Utf8.text bytes ++ rest)
      else
        Session.act (channel.sleep pollInterval)
        collect channel deadline rounds
    else pure ""

def windowTooLong (window : Duration) : Fault :=
  .worded .invalidInput ("drain window of " ++ window.text ++ " is too long")

-- Everything that the channel receives during `window`, as text. The window is always waited out,
-- also on a silent channel.
def drain (channel : Channel ω) (window : Duration) : Session ω Fault String := do
  match Clock.deadline? (← Session.query channel.now) window with
  | none => Session.fail (windowTooLong window)
  | some deadline => collect channel deadline channel.patience

def commandLine (command : String) : Bytes := Utf8.bytes command ++ [0x0A]

-- Submits a command, waits, and returns what is buffered by then. A response that is still on its
-- way is cut short.
def send (channel : Channel ω) (command : String) (settle : Duration) :
    Session ω Fault String := do
  channel.log .debug .console
    ("Sending " ++ Text.quoted command ++ ", settling for " ++ settle.text)
  Session.call (channel.write (commandLine command))
  Session.act (channel.sleep settle)
  let bytes ← channel.readAvailable
  channel.log .trace .console
    ("Received " ++ toString bytes.length ++ " bytes in response to " ++ Text.quoted command)
  pure (Utf8.text bytes)

def showCommand (name : String) : String := "param show " ++ name

def setCommand (name value : String) : String := "param set " ++ name ++ " " ++ value

end Console

structure ParameterReading where
  value : Option String
  response : String
  deriving DecidableEq, Repr

namespace Console

variable {ω : Type}

def fetch (channel : Channel ω) (name : String) (settle : Duration) :
    Session ω Fault ParameterReading := do
  let response ← send channel (showCommand name) settle
  let value := Parameter.value? response name
  channel.log .debug .console ("Parameter " ++ name ++ " reads " ++ Text.quoted? value)
  pure ⟨value, response⟩

def assign (channel : Channel ω) (name value : String) (settle : Duration) :
    Session ω Fault String :=
  send channel (setCommand name value) settle

end Console

end BoardSmoke
