import BoardSmoke.ExitStatus
import BoardSmoke.Fault.Basic
import BoardSmoke.Text.Quoted
import BoardSmoke.Text.Utf8

namespace BoardSmoke

inductive SerialFaultKind where
  | noDevice
  | invalidInput
  | unknown
  | fault (kind : FaultKind)
  deriving DecidableEq, Repr

structure SerialFault where
  kind : SerialFaultKind
  text : String
  deriving DecidableEq, Repr

def SerialFault.toFault (fault : SerialFault) : Fault :=
  match fault.kind with
  | .noDevice => .worded .notFound fault.text
  | .invalidInput => .worded .invalidInput fault.text
  | .unknown => .worded .other fault.text
  | .fault kind => .worded kind fault.text

inductive RunError where
  | deviceNotOpened (device : String) (cause : SerialFault)
  | toolNotLaunched (tool : String) (cause : Fault)
  | uploadFailed (target : String) (status : ExitStatus)
  | logNotWritten (path : Bytes) (cause : Fault)
  | channelFailed (cause : Fault)
  deriving DecidableEq, Repr

namespace RunError

def message : RunError → String
  | .deviceNotOpened device cause =>
    "Error when opening serial port " ++ device ++ ": " ++ cause.text
  | .toolNotLaunched tool cause =>
    "Could not launch build tool " ++ Text.quoted tool ++ ": " ++ cause.message
  | .uploadFailed target status =>
    "Uploading target " ++ target ++ " failed - build tool exited with " ++ status.text
  | .logNotWritten path cause =>
    "Could not write log file " ++ Utf8.text path ++ ": " ++ cause.message
  | .channelFailed cause => "I/O error: " ++ cause.message

-- The error's text, followed by the text of the failure that it passes on, if any.
def chain : RunError → List String
  | .channelFailed cause => [(RunError.channelFailed cause).message, cause.message]
  | error => [error.message]

end RunError

end BoardSmoke
