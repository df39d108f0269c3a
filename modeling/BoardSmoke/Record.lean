namespace BoardSmoke

-- From the most to the least important.
inductive Level where
  | error
  | warn
  | info
  | debug
  | trace
  deriving DecidableEq, Repr

namespace Level

def all : List Level := [.error, .warn, .info, .debug, .trace]

def name : Level → String
  | .error => "ERROR"
  | .warn => "WARN"
  | .info => "INFO"
  | .debug => "DEBUG"
  | .trace => "TRACE"

-- How much detail the level adds: a threshold shows all levels up to its own detail.
def detail : Level → Nat
  | .error => 1
  | .warn => 2
  | .info => 3
  | .debug => 4
  | .trace => 5

end Level

inductive Source where
  | serial
  | console
  | logs
  | smoke
  | upload
  deriving DecidableEq, Repr

-- The path that filters match against.
def Source.path : Source → String
  | .serial => "px4_smoke"
  | .console => "px4_smoke::console"
  | .logs => "px4_smoke::logs"
  | .smoke => "px4_smoke::smoke"
  | .upload => "px4_smoke::upload"

structure Record where
  level : Level
  source : Source
  text : String
  deriving DecidableEq, Repr

def Record.line (record : Record) : String :=
  " " ++ record.level.name ++ " " ++ record.source.path ++ " > " ++ record.text ++ "\n"

-- What reaches the error output: a log record, or text as it stands.
inductive Notice where
  | record (record : Record)
  | text (text : String)
  deriving DecidableEq, Repr

namespace Notice

def record? : Notice → Option Record
  | .record made => some made
  | .text _ => none

def printed : Notice → String
  | .record made => made.line
  | .text words => words

end Notice

end BoardSmoke
