namespace BoardSmoke

structure ExitStatus where
  word : UInt32
  deriving DecidableEq, Repr

namespace ExitStatus

def ofCode (code : Nat) : ExitStatus := ⟨UInt32.ofNat (code % 256 * 256)⟩

def ofSignal (signal : Nat) : ExitStatus := ⟨UInt32.ofNat (signal % 128)⟩

def isSuccess (status : ExitStatus) : Bool := status.word = 0

def low (status : ExitStatus) : Nat := status.word.toNat % 128

def high (status : ExitStatus) : Nat := status.word.toNat / 256 % 256

def code? (status : ExitStatus) : Option Nat :=
  if status.low = 0 then some status.high else none

def signal? (status : ExitStatus) : Option Nat :=
  if 0 < status.low ∧ status.low < 127 then some status.low else none

def hasCore (status : ExitStatus) : Bool := status.word.toNat / 128 % 2 = 1

def stopSignal? (status : ExitStatus) : Option Nat :=
  if status.word.toNat % 256 = 127 then some status.high else none

def isContinued (status : ExitStatus) : Bool := status.word = 0xffff

def signalNames : List String :=
  ["HUP", "INT", "QUIT", "ILL", "TRAP", "ABRT", "BUS", "FPE", "KILL", "USR1", "SEGV", "USR2",
   "PIPE", "ALRM", "TERM", "STKFLT", "CHLD", "CONT", "STOP", "TSTP", "TTIN", "TTOU", "URG",
   "XCPU", "XFSZ", "VTALRM", "PROF", "WINCH", "IO", "PWR", "SYS"]

def signalText (signal : Nat) : String :=
  let name := if signal = 0 then none else signalNames[signal - 1]?
  match name with
  | some name => toString signal ++ " (SIG" ++ name ++ ")"
  | none => toString signal

def wordText (word : UInt32) : String :=
  toString word.toInt32.toInt ++ " 0x" ++ String.ofList (Nat.toDigits 16 word.toNat)

def text (status : ExitStatus) : String :=
  match status.code?, status.signal?, status.stopSignal? with
  | some code, _, _ => "exit status: " ++ toString code
  | none, some signal, _ =>
    "signal: " ++ signalText signal ++ if status.hasCore then " (core dumped)" else ""
  | none, none, some signal => "stopped (not terminated) by signal: " ++ signalText signal
  | none, none, none =>
    if status.isContinued then "continued (WIFCONTINUED)"
    else "unrecognised wait status: " ++ wordText status.word

end ExitStatus

end BoardSmoke
