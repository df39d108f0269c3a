import BoardSmoke.SmokeTest

namespace BoardSmoke

structure Playback where
  time : Nat
  availables : List (Except Fault Nat)
  reads : List (Except Fault Reading)

namespace Playback

-- Once nothing is left, nothing is buffered.
def bench (patience : Nat) : Bench Playback where
  note _ world := world
  now world := (world.time, world)
  sleep duration world := { world with time := world.time + duration.nanoseconds }
  write _ world := (.ok (), world)
  available world :=
    (world.availables.headD (.ok 0), { world with availables := world.availables.tail })
  read _ world := (world.reads.headD (.ok ⟨[], 0⟩), { world with reads := world.reads.tail })
  reset world := (.ok (), world)
  close world := world
  patience := patience
  makeFolders _ world := (.ok (), world)
  writeFile _ _ world := (.ok (), world)
  flash world := (.ok (), world)
  openChannel _ world := (.ok (), world)
  localTime world := (⟨2025, 1, 1, 0, 0, 0⟩, world)

def whole (text : String) : Except Fault Reading :=
  .ok ⟨Utf8.bytes text, (Utf8.bytes text).length⟩

-- A test of a parameter with a short name, which does not wait for boot output.
def config : Config :=
  { Config.standard with
    bootCapture := .zero, parameter := "P", probeValue := "7", fallbackValue := "8" }

structure Hearing where
  version : String
  first : String
  changed : String
  second : String
  restored : String
  third : String

-- Every response is buffered as a whole when it is looked for.
def Hearing.playback (heard : Hearing) : Playback :=
  let responses :=
    [heard.version, heard.first, heard.changed, heard.second, heard.restored, heard.third]
  ⟨0, responses.map fun text => .ok (Utf8.bytes text).length, responses.map whole⟩

-- The board says something for the boot log before.
def Hearing.afterBoot (heard : Hearing) (boot : String) : Playback :=
  let heard := heard.playback
  let length := (Utf8.bytes boot).length
  ⟨heard.time, .ok length :: .ok length :: .ok 0 :: heard.availables, whole boot :: heard.reads⟩

-- A test that waits for boot output, though not for long.
def bootingConfig : Config := { config with bootCapture := ⟨1⟩ }

-- P is 1, is set to 7 and is set back.
def obedient : Hearing :=
  ⟨"nsh> ", "P 1 \r\nnsh> ", "nsh> ", "P 7 \r\nnsh> ", "nsh> ", "P 1 \r\nnsh> "⟩

-- P is 1 and stays 1, whatever it is set to.
def heedless : Hearing :=
  ⟨"nsh> ", "P 1 \r\nnsh> ", "nsh> ", "P 1 \r\nnsh> ", "nsh> ", "P 1 \r\nnsh> "⟩

-- P is 601, but the first response ends inside the value and goes on in the second one.
def hasty : Hearing :=
  ⟨"nsh> ", "P 60", "1 \r\nnsh> nsh> ", "P 7 \r\nnsh> ", "nsh> ", "P 60 \r\nnsh> "⟩

-- P is unknown. The boot output is read in two parts, with an interruption in between.
def halting : Playback :=
  ⟨0, [.ok 4, .ok 4, .ok 0, .ok 5, .ok 5],
    [whole "bo", .error (.plain .interrupted), whole "ot", whole "nsh> ", whole "nsh> "]⟩

-- P is 1, and the connection is lost right after it was set.
def cutOff : Playback :=
  ⟨0, [.ok 5, .ok 12, .error (.worded .brokenPipe "broken pipe")],
    [whole "nsh> ", whole "P 1 \r\nnsh> "]⟩

-- What a test reports that waits for boot output, when it is "boot" and the version is a prompt.
def report (roundTrip : RoundTrip) (warnings : List Warning) : Report where
  bootLog := "boot"
  bootLogPath := Utf8.bytes "test_data/boot_logs/boot_20250101_000000.log"
  versionOutput := "nsh> "
  versionLogPath := Utf8.bytes "test_data/boot_logs/latest_ver_all.log"
  roundTrip := roundTrip
  warnings := warnings

end Playback

end BoardSmoke
