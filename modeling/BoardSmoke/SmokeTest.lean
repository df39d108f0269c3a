import BoardSmoke.Archive
import BoardSmoke.Config
import BoardSmoke.Console
import BoardSmoke.Report

namespace BoardSmoke

structure Bench (ω : Type) extends Channel ω, Disk ω where
  flash : ω → Except RunError Unit × ω
  openChannel : Config → ω → Except RunError Unit × ω
  localTime : ω → LocalTime × ω

namespace SmokeTest

variable {ω : Type}

def versionCommand : String := "ver all"

def onConsole (session : Session ω Fault α) : Session ω RunError α :=
  Session.mapError .channelFailed session

def log (bench : Bench ω) (level : Level) (text : String) : Session ω RunError Unit :=
  bench.toChannel.log level .smoke text

-- Discards stale input, collects what the board says for a while, and archives it.
def captureBootLog (bench : Bench ω) (config : Config) : Session ω RunError (String × Bytes) := do
  log bench .info ("Capturing boot log for " ++ config.bootCapture.text)
  onConsole (Session.call bench.reset)
  let text ← onConsole (Console.drain bench.toChannel config.bootCapture)
  let time ← Session.query bench.localTime
  let path ← Archive.saveBootLog bench.toJournal bench.toDisk config.logRoot text time
  log bench .info ("Boot log saved to " ++ Utf8.text path)
  pure (text, path)

def readParameter (bench : Bench ω) (config : Config) : Session ω RunError ParameterReading :=
  onConsole (Console.fetch bench.toChannel config.parameter config.showSettle)

def setParameter (bench : Bench ω) (config : Config) (value : String) : Session ω RunError Unit := do
  let _ ← onConsole
    (Console.assign bench.toChannel config.parameter value config.setSettle)
  pure ()

-- Sets the parameter under test to another value and back to the value it has, reading it after
-- each. A parameter that cannot be read is left alone.
def tryParameter (bench : Bench ω) (config : Config) : Session ω RunError RoundTrip := do
  let name := config.parameter
  let reading ← readParameter bench config
  match reading.value with
  | none => pure (.missing reading.response)
  | some initial =>
    log bench .info (name ++ " original value: " ++ initial)
    let temporary := RoundTrip.temporaryValue initial config.probeValue config.fallbackValue
    setParameter bench config temporary
    let updated := (← readParameter bench config).value
    log bench .info (name ++ " updated value: " ++ Text.quoted? updated)
    setParameter bench config initial
    let restored := (← readParameter bench config).value
    log bench .info (name ++ " restored value: " ++ Text.quoted? restored)
    pure (.completed initial temporary updated restored)

def warn (bench : Bench ω) (warnings : List Warning) : Session ω RunError Unit :=
  warnings.forM fun warning => log bench .warn warning.text

def run (bench : Bench ω) (config : Config) : Session ω RunError Report := do
  Session.call bench.flash
  Session.call (bench.openChannel config)
  let (bootLog, bootLogPath) ← captureBootLog bench config
  let bootWarnings := Warning.ofBootLog bootLog
  warn bench bootWarnings
  let versionOutput ← onConsole
    (Console.send bench.toChannel versionCommand config.versionSettle)
  log bench .debug
    (versionCommand ++ " returned " ++ toString (Utf8.bytes versionOutput).length ++ " bytes")
  let roundTrip ← tryParameter bench config
  let tripWarnings := Warning.ofRoundTrip config.parameter roundTrip
  warn bench tripWarnings
  let versionLogPath ←
    Archive.saveVersionOutput bench.toJournal bench.toDisk config.logRoot versionOutput
  log bench .info ("VER output archived to " ++ Utf8.text versionLogPath)
  Session.act bench.close
  pure {
    bootLog, bootLogPath, versionOutput, versionLogPath, roundTrip
    warnings := bootWarnings ++ tripWarnings }

end SmokeTest

end BoardSmoke
