import BoardSmoke.CommandLine.Parser
import BoardSmoke.RecordFilter
import BoardSmoke.Workbench

namespace BoardSmoke

structure Finish where
  code : Nat
  output : Bytes
  -- The error output in order.
  notices : List Notice
  bench : Workbench

namespace Finish

-- The notices as lines: the log records by their first lines, and all other text. A record that
-- goes on after its first line does so as text.
def split (notices : List Notice) : List Record × String :=
  notices.foldr (fun notice (records, text) =>
    match notice with
    | .text before => (records, before ++ text)
    | .record record =>
      match record.text.splitOn "\n" with
      | first :: rest =>
        ({ record with text := first } :: records,
         String.join (rest.map (· ++ "\n")) ++ text)
      | [] => (records, text)) ([], "")

end Finish

namespace Program

def filterVariable : String := "RUST_LOG"

def recordFilter (environment : String → Option Bytes) : RecordFilter × List String :=
  match (environment filterVariable).bind Utf8.text? with
  | some text => RecordFilter.parse text
  | none => (.upTo .info, [])

-- A text with `first` before its first line and `further` before each further one.
def indented (first further text : String) : String :=
  first ++ ("\n" ++ further).intercalate (text.splitOn "\n")

def numberedCause (cause : String) (number : Nat) : String :=
  let digits := toString number
  let margin := String.ofList (List.replicate (5 - digits.length) ' ')
  indented (margin ++ digits ++ ": ") "       " cause

def causesText : List String → String
  | [cause] => indented "    " "    " cause
  | causes => "\n".intercalate (causes.mapIdx fun number cause => numberedCause cause number)

def failureText (context : String) (error : RunError) : String :=
  "Error: " ++ context ++ "\n\nCaused by:\n" ++ causesText error.chain ++ "\n"

def contextText (config : Config) : String :=
  "Smoke test of " ++ config.buildTarget ++ " on " ++ config.device ++ " failed"

def successText : String := "\nHardware smoke test complete.\n"

def shown (filter : RecordFilter) (notices : List Notice) : List Notice :=
  notices.filter fun notice => notice.record?.all filter.passes

def smokeTest (config : Config) (bench : Workbench) :
    Except (Stop RunError) Report × Workbench :=
  let flash := Workbench.upload (Uploader.ofConfig config)
  (SmokeTest.run (Workbench.bench flash Workbench.openConfigured) config).runIn bench

def test (filter : RecordFilter) (config : Config) (bench : Workbench) : Finish :=
  let (result, bench) := smokeTest config bench
  let notices := shown filter bench.notices.reverse
  match result with
  | .ok report =>
    let text := report.text config.parameter ++ successText
    ⟨0, bench.output ++ Utf8.bytes text, notices, bench⟩
  | .error (.failed error) =>
    ⟨1, bench.output, notices ++ [.text (failureText (contextText config) error)], bench⟩
  | .error .unfinished => ⟨1, bench.output, notices, bench⟩

-- A command line that gives no settings is answered at once.
def answer (refusal : Refusal) (bench : Workbench) : Finish :=
  match refusal with
  | .help text => ⟨0, Utf8.bytes (text ++ "\n"), [], bench⟩
  | .version => ⟨0, Utf8.bytes (Usage.versionText ++ "\n"), [], bench⟩
  | refusal => ⟨1, [], [.text (refusal.message ++ "\n")], bench⟩

def run (environment : String → Option Bytes) (arguments : List Bytes) (bench : Workbench) :
    Finish :=
  let (filter, complaints) := recordFilter environment
  let finish := match CommandLine.parse bench.clock environment arguments with
    | .ok config => test filter config bench
    | .error refusal => answer refusal bench
  { finish with notices := complaints.map (.text <| · ++ "\n") ++ finish.notices }

end Program

end BoardSmoke
