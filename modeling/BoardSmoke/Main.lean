import BoardSmoke.Program

namespace BoardSmoke.CommandLine

def variableNames : List String :=
  Program.filterVariable :: Setting.all.map (·.environment)

def readEnvironment : IO (String → Option Bytes) := do
  let values ← variableNames.mapM fun name => do
    let value ← IO.getEnv name
    pure (name, value)
  pure fun name => ((values.lookup name).bind id).map Utf8.bytes

end BoardSmoke.CommandLine

open BoardSmoke in
def main (arguments : List String) : IO UInt32 := do
  let environment ← CommandLine.readEnvironment
  let bench := Workbench.empty "work" (LocalTime.ofEpoch 0 0)
  let finish := Program.run environment (arguments.map Utf8.bytes) bench
  (← IO.getStdout).write ⟨finish.output.toArray⟩
  (← IO.getStderr).putStr (String.join (finish.notices.map Notice.printed))
  pure (UInt32.ofNat finish.code)
