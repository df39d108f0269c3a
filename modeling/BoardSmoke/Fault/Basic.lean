import BoardSmoke.Fault.Errno

namespace BoardSmoke

inductive Fault where
  -- Only the kind is known.
  | plain (kind : FaultKind)
  -- The kind, with a text of its own.
  | worded (kind : FaultKind) (text : String)
  -- An error of the operating system.
  | system (errno : Errno)
  deriving DecidableEq, Repr

namespace Fault

def kind : Fault → FaultKind
  | .plain kind => kind
  | .worded kind _ => kind
  | .system errno => errno.kind

def message : Fault → String
  | .plain kind => kind.description
  | .worded _ text => text
  | .system errno => errno.text ++ " (os error " ++ toString errno.code ++ ")"

-- A read that timed out ends a read of several parts, and is no failure of it.
def isTimeout (fault : Fault) : Bool := fault.kind = .timedOut

-- An interrupted read is made again.
def isInterruption (fault : Fault) : Bool := fault.kind = .interrupted

end Fault

end BoardSmoke
