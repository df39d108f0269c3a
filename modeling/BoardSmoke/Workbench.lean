import BoardSmoke.BuildTool
import BoardSmoke.FileTree.Listing
import BoardSmoke.Link.Scripted
import BoardSmoke.Link.Terminal
import BoardSmoke.SmokeTest

namespace BoardSmoke

inductive Link where
  | none
  | scripted (link : Scripted)
  | terminal (line : Terminal)
  deriving DecidableEq, Repr

namespace Link

def noLink : Fault := .plain .notConnected

def write (bytes : Bytes) : Link → Except Fault Unit × Link
  | .none => (.error noLink, .none)
  | .scripted link => (link.write bytes).map id .scripted
  | .terminal line => (line.write bytes).map id .terminal

def available : Link → Except Fault Nat × Link
  | .none => (.error noLink, .none)
  | .scripted link => link.available.map id .scripted
  | .terminal line => line.available.map id .terminal

def read (room : Nat) : Link → Except Fault Reading × Link
  | .none => (.error noLink, .none)
  | .scripted link => (link.read room).map id .scripted
  | .terminal line => (line.read room).map id .terminal

def reset : Link → Except Fault Unit × Link
  | .none => (.error noLink, .none)
  | .scripted link => link.reset.map id .scripted
  | .terminal line => line.reset.map id .terminal

def calls : Link → List String
  | .scripted link => link.calls
  | _ => []

def clearCalls : Link → Link
  | .scripted link => .scripted { link with calls := [] }
  | link => link

def board? : Link → Option Board
  | .none => Option.none
  | .scripted link => some link.board
  | .terminal line => some line.board

def buffer : Link → Bytes
  | .none => []
  | .scripted link => link.buffer
  | .terminal line => line.input

def arrive (bytes : Bytes) : Link → Link
  | .none => .none
  | .scripted link => .scripted { link with buffer := link.buffer ++ bytes }
  | .terminal line => .terminal (line.arrive bytes)

end Link

inductive Event where
  | flash
  | openChannel
  deriving DecidableEq, Repr

structure Workbench where
  tree : FileTree
  link : Link
  -- Nanoseconds on the clock that sessions read.
  clock : Nat
  localTime : LocalTime
  -- What launched programs printed.
  output : Bytes
  -- The error output with the log records, the last notice first.
  notices : List Notice
  -- The large steps that tests took, the last one first.
  events : List Event

namespace Workbench

def systemTree : List (Place × Entry) :=
  let name (text : String) : Name := Utf8.bytes text
  let folder (names : List String) : Place × Entry := (names.map name, .folder)
  [folder ["dev"], folder ["dev", "pts"], folder ["usr"], folder ["usr", "bin"], folder ["tmp"],
   folder ["tmp", "bench"],
   ([name "bin"], .link (name "usr/bin")),
   (["dev", "null"].map name, .device .sink),
   (["dev", "zero"].map name, .device .sink),
   (["dev", "full"].map name, .device .full)] ++
  SystemProgram.names.map fun program => (["usr", "bin", program].map name, .program program)

-- The clock shows some days when a session starts.
def startClock : Nat := 100000 * Duration.perSecond

def empty (folder : String) (localTime : LocalTime) : Workbench where
  tree :=
    let place := ["tmp", "bench", folder].map Utf8.bytes
    (FileTree.put ⟨systemTree, place⟩ place .folder)
  link := .none
  clock := startClock
  localTime := localTime
  output := []
  notices := []
  events := []

def notify (notice : Notice) (bench : Workbench) : Workbench :=
  { bench with notices := notice :: bench.notices }

def note (record : Record) (bench : Workbench) : Workbench := bench.notify (.record record)

def records (bench : Workbench) : List Record := bench.notices.reverse.filterMap Notice.record?

def log (level : Level) (source : Source) (text : String) (bench : Workbench) : Workbench :=
  bench.note ⟨level, source, text⟩

def onLink (operation : Link → Except Fault α × Link) (bench : Workbench) :
    Except Fault α × Workbench :=
  (operation bench.link).map id fun link => { bench with link }

def onTree (operation : FileTree → Except Fault α × FileTree) (bench : Workbench) :
    Except Fault α × Workbench :=
  (operation bench.tree).map id fun tree => { bench with tree }

def journal : Journal Workbench := ⟨note⟩

-- A terminal line announces that it is closed, a scripted link writes the call down.
def close (bench : Workbench) : Workbench :=
  match bench.link with
  | .none => bench
  | .scripted link => { bench with link := .scripted link.close }
  | .terminal line =>
    bench.log .debug .serial ("Closing serial port " ++ Text.quoted? (some line.name))

def channel : Channel Workbench where
  note := note
  now bench := (bench.clock, bench)
  sleep duration bench := { bench with clock := bench.clock + duration.nanoseconds }
  write bytes := onLink (Link.write bytes)
  available := onLink Link.available
  read room := onLink (Link.read room)
  reset := onLink Link.reset
  close := close
  patience := Nat.pow 2 40

def disk : Disk Workbench where
  makeFolders path := onTree (·.makeFolders path)
  writeFile path content := onTree (·.writeFile path content)

def launch (tool : String) (arguments : List String) (bench : Workbench) :
    Except Fault ExitStatus × Workbench :=
  match Launch.launch bench.tree tool arguments with
  | .error fault => (.error fault, bench)
  | .ok outcome =>
    let bench := { bench with tree := outcome.tree, output := bench.output ++ outcome.output }
    (.ok outcome.ending.status, bench.notify (.text (Utf8.text outcome.errors)))

def upload (uploader : Uploader) (bench : Workbench) : Except RunError Unit × Workbench :=
  uploader.upload journal ⟨launch⟩ bench

-- Opens the serial device `name`. Only the terminal that the workbench has can be opened.
def openDevice (name : String) (baudRate : Nat) (readTimeout : Duration) (bench : Workbench) :
    Except RunError Unit × Workbench :=
  let bench := bench.log .debug .serial
    ("Opening serial port " ++ name ++ " @ " ++ toString baudRate ++ " baud")
  match Terminal.checkDevice bench.tree (Utf8.bytes name), bench.link with
  | .error errno, _ => (.error (.deviceNotOpened name (Terminal.openFault errno)), bench)
  | .ok (), .terminal line =>
    (.ok (), { bench with link := .terminal { line with name, baudRate, readTimeout } })
  | .ok (), _ => (.error (.deviceNotOpened name (Terminal.openFault .noEntry)), bench)

def openConfigured (config : Config) (bench : Workbench) : Except RunError Unit × Workbench :=
  openDevice config.device config.baudRate config.readTimeout
    (bench.log .info .smoke
      ("Opening " ++ config.device ++ " @ " ++ toString config.baudRate ++ " baud"))

def began (event : Event) (bench : Workbench) : Workbench :=
  { bench with events := event :: bench.events }

def bench (flash : Workbench → Except RunError Unit × Workbench)
    (openChannel : Config → Workbench → Except RunError Unit × Workbench) : Bench Workbench where
  toChannel := channel
  toDisk := disk
  flash bench := flash (bench.began .flash)
  openChannel config bench := openChannel config (bench.began .openChannel)
  localTime bench := (bench.localTime, bench)

-- Puts a terminal line on the workbench, as the device at `name`.
def attach (name : String) (line : Terminal) (bench : Workbench) : Workbench :=
  { bench with
    link := .terminal line
    tree := bench.tree.put (Path.names (Utf8.bytes name)) (.device .terminal) }

end Workbench

end BoardSmoke
