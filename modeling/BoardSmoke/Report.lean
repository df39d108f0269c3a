import BoardSmoke.Text.Utf8

namespace BoardSmoke

inductive RoundTrip where
  -- It could not be read, so it was never written.
  | missing (response : String)
  -- It was read, set to another value, read, set back and read again.
  | completed (initial temporary : String) (updated restored : Option String)
  deriving DecidableEq, Repr

namespace RoundTrip

-- The value that a parameter is set to for the test: one that differs from the value it has, if
-- the probe and the fallback differ.
def temporaryValue (initial probe fallback : String) : String :=
  if initial = probe then fallback else probe

def isRestored : RoundTrip → Bool
  | .missing _ => false
  | .completed initial _ _ restored => restored = some initial

end RoundTrip

inductive Warning where
  | emptyBootLog
  | parameterMissing (name : String)
  | parameterNotRestored (name : String)
  deriving DecidableEq, Repr

namespace Warning

def text : Warning → String
  | .emptyBootLog => "No boot output captured - continuing anyway"
  | .parameterMissing name => "Failed to read " ++ name
  | .parameterNotRestored name => name ++ " did not read back its original value after restoring"

def ofBootLog (log : String) : List Warning := if log = "" then [.emptyBootLog] else []

def ofRoundTrip (name : String) : RoundTrip → List Warning
  | .missing _ => [.parameterMissing name]
  | trip => if trip.isRestored then [] else [.parameterNotRestored name]

end Warning

structure Report where
  bootLog : String
  bootLogPath : Bytes
  versionOutput : String
  versionLogPath : Bytes
  roundTrip : RoundTrip
  warnings : List Warning
  deriving DecidableEq, Repr

namespace Report

def valueText (value : Option String) : String := value.getD "<none>"

def roundTripText (name : String) : RoundTrip → String
  | .missing _ => "Failed to read " ++ name ++ "\n"
  | .completed initial temporary updated restored =>
    "\n" ++ name ++ " original value: " ++ initial ++ "\n" ++
    name ++ " updated value: " ++ valueText updated ++ " (expected " ++ temporary ++ ")\n" ++
    name ++ " restored value: " ++ valueText restored ++ "\n"

-- The report as it is printed, where `name` is the parameter that was tested.
def text (report : Report) (name : String) : String :=
  "\nVER ALL OUTPUT:\n" ++ report.versionOutput ++ "\n" ++
  roundTripText name report.roundTrip ++
  "\nBoot log saved to " ++ Utf8.text report.bootLogPath ++ "\n" ++
  "VER output archived to " ++ Utf8.text report.versionLogPath ++ "\n"

end Report

end BoardSmoke
