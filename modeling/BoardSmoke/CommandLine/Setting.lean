import BoardSmoke.Config
import BoardSmoke.Number.Natural
import BoardSmoke.Number.Seconds

namespace BoardSmoke

inductive Setting where
  | serialDevice
  | baudRate
  | readTimeout
  | buildTool
  | buildTarget
  | bootCapture
  | versionSettle
  | paramSettle
  | setSettle
  | logRoot
  | paramName
  | probeValue
  | fallbackValue
  deriving DecidableEq, Repr

namespace Setting

-- In the order in which the settings are checked.
def all : List Setting :=
  [.serialDevice, .baudRate, .readTimeout, .buildTool, .buildTarget, .bootCapture, .versionSettle,
   .paramSettle, .setSettle, .logRoot, .paramName, .probeValue, .fallbackValue]

def valueName : Setting → String
  | .serialDevice => "serial-port"
  | .baudRate => "baud-rate"
  | .readTimeout => "read-timeout"
  | .buildTool => "build-tool"
  | .buildTarget => "build-target"
  | .bootCapture => "boot-capture"
  | .versionSettle => "version-settle"
  | .paramSettle => "param-settle"
  | .setSettle => "set-settle"
  | .logRoot => "log-root"
  | .paramName => "param-name"
  | .probeValue => "probe-value"
  | .fallbackValue => "fallback-value"

def long : Setting → String
  | .serialDevice => "port"
  | .buildTarget => "target"
  | .paramName => "param"
  | setting => setting.valueName

def letter? : Setting → Option Char
  | .serialDevice => some 'p'
  | .baudRate => some 'b'
  | .buildTarget => some 't'
  | _ => none

def environment : Setting → String
  | .serialDevice => "SERIAL_PORT"
  | .baudRate => "BAUD_RATE"
  | .readTimeout => "READ_TIMEOUT"
  | .buildTool => "BUILD_TOOL"
  | .buildTarget => "BUILD_TARGET"
  | .bootCapture => "BOOT_CAPTURE"
  | .versionSettle => "VERSION_SETTLE"
  | .paramSettle => "PARAM_SETTLE"
  | .setSettle => "SET_SETTLE"
  | .logRoot => "LOG_ROOT"
  | .paramName => "PARAM_NAME"
  | .probeValue => "PROBE_VALUE"
  | .fallbackValue => "FALLBACK_VALUE"

def defaultText : Setting → String
  | .serialDevice => "/dev/ttyACM0"
  | .baudRate => "115200"
  | .readTimeout => "0.5"
  | .buildTool => "make"
  | .buildTarget => "microchip_samv71-xult-clickboards_default"
  | .bootCapture => "6"
  | .versionSettle => "2.5"
  | .paramSettle => "1.0"
  | .setSettle => "1.5"
  | .logRoot => "test_data/boot_logs"
  | .paramName => "SYS_AUTOSTART"
  | .probeValue => "60100"
  | .fallbackValue => "0"

def help : Setting → String
  | .serialDevice => "The serial device of the board's console"
  | .baudRate => "The console baud rate"
  | .readTimeout => "Upper bound in seconds for a single serial read"
  | .buildTool => "The build tool used to flash the board"
  | .buildTarget => "The firmware target to build and upload"
  | .bootCapture => "Seconds of console output to capture as the boot log"
  | .versionSettle => "Seconds to wait for the \x60ver all\x60 response"
  | .paramSettle => "Seconds to wait for a \x60param show\x60 response"
  | .setSettle => "Seconds to wait after a \x60param set\x60"
  | .logRoot => "The directory the logs are written to"
  | .paramName => "The parameter to read, change and restore"
  | .probeValue => "The value the parameter is temporarily set to"
  | .fallbackValue => "The temporary value used when the parameter already holds the probe value"

-- What the text of the option's value is read as.
inductive Form where
  | text
  | path
  | natural
  | seconds
  deriving DecidableEq, Repr

def form : Setting → Form
  | .baudRate => .natural
  | .readTimeout => .seconds
  | .bootCapture => .seconds
  | .versionSettle => .seconds
  | .paramSettle => .seconds
  | .setSettle => .seconds
  | .logRoot => .path
  | _ => .text

def usage (setting : Setting) : String := "--" ++ setting.long ++ " <" ++ setting.valueName ++ ">"

-- In the order of the names of their values, which is the order in texts.
def sorted (settings : List Setting) : List Setting :=
  settings.mergeSort fun one other => one.valueName ≤ other.valueName

def ofLong? (name : Bytes) : Option Setting := all.find? fun setting =>
  Utf8.bytes setting.long = name

def ofLetter? (letter : Char) : Option Setting := all.find? (·.letter? = some letter)

def baudLimit : Nat := Nat.pow 2 32

-- Why a value is not accepted, if it is not. Durations are checked against the clock.
def check (now : Nat) (setting : Setting) (text : String) : Except String Unit :=
  match setting.form with
  | .natural =>
    match Natural.parse baudLimit text with
    | .ok _ => .ok ()
    | .error error => .error error.message
  | .seconds =>
    match Seconds.parse now text with
    | .ok _ => .ok ()
    | .error error => .error (error.message text)
  | _ => .ok ()

end Setting

end BoardSmoke
