import BoardSmoke.Duration
import BoardSmoke.Text.Utf8

namespace BoardSmoke

structure Config where
  -- The serial device of the board's console.
  device : String
  baudRate : Nat
  -- The longest that a single read waits.
  readTimeout : Duration
  -- The tool that builds a target and uploads it.
  buildTool : String
  buildTarget : String
  -- How long boot output is collected.
  bootCapture : Duration
  -- How long the version query, showing and setting a parameter take to settle.
  versionSettle : Duration
  showSettle : Duration
  setSettle : Duration
  -- The folder of the logs.
  logRoot : Bytes
  -- The parameter under test, the value it is set to, and the one to use if it has that already.
  parameter : String
  probeValue : String
  fallbackValue : String
  deriving DecidableEq, Repr

def Config.standard : Config where
  device := "/dev/ttyACM0"
  baudRate := 115200
  readTimeout := Duration.ofMilliseconds 500
  buildTool := "make"
  buildTarget := "microchip_samv71-xult-clickboards_default"
  bootCapture := Duration.ofSeconds 6
  versionSettle := Duration.ofMilliseconds 2500
  showSettle := Duration.ofMilliseconds 1000
  setSettle := Duration.ofMilliseconds 1500
  logRoot := Utf8.bytes "test_data/boot_logs"
  parameter := "SYS_AUTOSTART"
  probeValue := "60100"
  fallbackValue := "0"

end BoardSmoke
