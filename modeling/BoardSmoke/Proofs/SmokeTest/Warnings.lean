import BoardSmoke.Proofs.Workbench
import BoardSmoke.Proofs.Playback
import BoardSmoke.Proofs.Recording.Parts
import BoardSmoke.Proofs.Recording.Phases
import BoardSmoke.Proofs.Spares

namespace BoardSmoke

def Warning.record : Warning → Record
  | .emptyBootLog => ⟨.warn, .smoke, "No boot output captured - continuing anyway"⟩
  | .parameterMissing name => ⟨.warn, .smoke, "Failed to read " ++ name⟩
  | .parameterNotRestored name =>
    ⟨.warn, .smoke, name ++ " did not read back its original value after restoring"⟩

theorem Warning.record_eq (warning : Warning) : warning.record = ⟨.warn, .smoke, warning.text⟩ := by
  cases warning <;> rfl

-- A bench that keeps what is warned of. All else is as on the bench it is made from.
def Bench.warning (bench : Bench ω) : Bench (ω × List Record) :=
  { bench.carrying (List Record) with
    note record world :=
      (bench.note record world.1, if record.level = .warn then world.2 ++ [record] else world.2) }

theorem Bench.warning_warns (bench : Bench ω) : bench.warning.Warns Prod.snd where
  note _ _ := rfl
  now _ := rfl
  sleep _ _ := rfl
  write _ _ := rfl
  available _ := rfl
  read _ _ := rfl
  reset _ := rfl
  close _ := rfl
  makeFolders _ _ := rfl
  writeFile _ _ _ := rfl
  flash _ := rfl
  openChannel _ _ := rfl
  localTime _ := rfl

namespace SmokeTest

open Course Session

variable {ω : Type} {config : Config}

-- The warnings that the trial of the parameter is worth: by the first response, which may give no value,
-- and by the last, which may give another one.
inductive Judged (config : Config) : List Effect → RoundTrip → List Warning → Prop
  | missing {shown : List Effect} {response : String}
      (hshown : showing config shown (.ok response))
      (hvalue : Parameter.value? response config.parameter = none) :
      Judged config shown (.missing response) [.parameterMissing config.parameter]
  | restored {shown : List Effect} {response initial : String} {roundTrip : RoundTrip}
      (hshown : showing config shown (.ok response))
      (hvalue : Parameter.value? response config.parameter = some initial)
      (change : Change config initial roundTrip)
      (hthird : Parameter.value? change.third config.parameter = some initial) :
      Judged config (shown ++ change.effects) roundTrip []
  | changed {shown : List Effect} {response initial : String} {roundTrip : RoundTrip}
      (hshown : showing config shown (.ok response))
      (hvalue : Parameter.value? response config.parameter = some initial)
      (change : Change config initial roundTrip)
      (hthird : Parameter.value? change.third config.parameter ≠ some initial) :
      Judged config (shown ++ change.effects) roundTrip [.parameterNotRestored config.parameter]

theorem judged_of_trying {effects : List Effect} {roundTrip : RoundTrip}
    (h : trying config effects (.ok roundTrip)) :
    Judged config effects roundTrip (Warning.ofRoundTrip config.parameter roundTrip) := by
  rw [trying_eq] at h
  obtain ⟨response, shown, treated, hshown, htreated, rfl⟩ := andThen_ok_iff.mp h
  rcases treating_ok htreated with ⟨hvalue, rfl, rfl⟩ | ⟨initial, hvalue, change, rfl⟩
  · rw [List.append_nil]
    exact .missing hshown hvalue
  · have htrip := change.roundTrip_eq
    by_cases hthird : Parameter.value? change.third config.parameter = some initial
    · have hnone : Warning.ofRoundTrip config.parameter roundTrip = [] := by
        simp [htrip, Warning.ofRoundTrip, RoundTrip.isRestored, hthird]
      rw [hnone]
      exact .restored hshown hvalue change hthird
    · have hone : Warning.ofRoundTrip config.parameter roundTrip =
          [.parameterNotRestored config.parameter] := by
        simp [htrip, Warning.ofRoundTrip, RoundTrip.isRestored, hthird]
      rw [hone]
      exact .changed hshown hvalue change hthird

def booted (config : Config) : Course RunError (String × Bytes) :=
  (listening config).andThen fun bootLog =>
    (Archive.savingBootLog config.logRoot bootLog).andThen fun path =>
      .still (.ok (bootLog, path))

-- What a test warns of, by how far it gets: of an empty boot log once that is saved, and of the
-- parameter once it was tried to the end.
inductive Warned (config : Config) :
    List Effect → Except (Stop RunError) Report → List Warning → Prop
  | booting {effects : List Effect} {stop : Stop RunError}
      (hstopped : booted config effects (.error stop)) : Warned config effects (.error stop) []
  | exercising {before later : List Effect} {bootLog : String} {path : Bytes}
      {stop : Stop RunError} (hbooted : booted config before (.ok (bootLog, path)))
      (hstopped : exercising config later (.error stop)) :
      Warned config (before ++ later) (.error stop) (if bootLog = "" then [.emptyBootLog] else [])
  | saving {before versioned tried later : List Effect} {bootLog version : String} {path : Bytes}
      {roundTrip : RoundTrip} {warnings : List Warning} {stop : Stop RunError}
      (hbooted : booted config before (.ok (bootLog, path)))
      (hversion : asking "ver all" config.versionSettle versioned (.ok version))
      (hjudged : Judged config tried roundTrip warnings)
      (hstopped : Archive.saving config.logRoot Archive.versionLogName version later
        (.error stop)) :
      Warned config (before ++ (versioned ++ tried ++ later)) (.error stop)
        ((if bootLog = "" then [.emptyBootLog] else []) ++ warnings)
  | reported {before versioned tried saved : List Effect} {report : Report}
      {warnings : List Warning}
      (hbooted : booted config before (.ok (report.bootLog, report.bootLogPath)))
      (hversion : asking "ver all" config.versionSettle versioned
        (.ok report.versionOutput))
      (hjudged : Judged config tried report.roundTrip warnings)
      (hsaved : Archive.saving config.logRoot Archive.versionLogName report.versionOutput saved
        (.ok report.versionLogPath))
      (hwarnings : report.warnings =
        (if report.bootLog = "" then [.emptyBootLog] else []) ++ warnings) :
      Warned config (before ++ (versioned ++ tried ++ (saved ++ [.close]))) (.ok report)
        report.warnings

def boot (bench : Bench ω) (config : Config) : Session ω RunError (String × Bytes) := do
  Session.call bench.flash
  Session.call (bench.openChannel config)
  captureBootLog bench config

def exercise (bench : Bench ω) (config : Config) : Session ω RunError (String × RoundTrip) := do
  let versionOutput ← onConsole
    (Console.send bench.toChannel versionCommand config.versionSettle)
  log bench .debug
    (versionCommand ++ " returned " ++ toString (Utf8.bytes versionOutput).length ++ " bytes")
  let roundTrip ← tryParameter bench config
  pure (versionOutput, roundTrip)

def conclude (bench : Bench ω) (config : Config) (bootLog : String) (bootLogPath : Bytes)
    (versionOutput : String) (roundTrip : RoundTrip) : Session ω RunError Report := do
  let versionLogPath ←
    Archive.saveVersionOutput bench.toJournal bench.toDisk config.logRoot versionOutput
  log bench .info ("VER output archived to " ++ Utf8.text versionLogPath)
  Session.act bench.close
  pure {
    bootLog, bootLogPath, versionOutput, versionLogPath, roundTrip
    warnings := Warning.ofBootLog bootLog ++ Warning.ofRoundTrip config.parameter roundTrip }

theorem run_eq (bench : Bench ω) (config : Config) :
    run bench config =
      boot bench config >>= fun booted => warn bench (Warning.ofBootLog booted.1) >>= fun _ =>
        exercise bench config >>= fun found =>
          warn bench (Warning.ofRoundTrip config.parameter found.2) >>= fun _ =>
            conclude bench config booted.1 booted.2 found.1 found.2 := by
  simp only [run, boot, exercise, conclude, bind_assoc, pure_bind]

theorem boot_records (bench : Bench ω) (config : Config) :
    Records (boot bench.recorded config) (boot bench config) (booted config) := by
  have hcourse : booted config = (Course.call .flash).andThen fun _ =>
      (Course.call .openChannel).andThen fun _ => capturing config := by
    simp only [booted, listening, capturing, andThen_assoc]
  rw [hcourse]
  refine records_bind (records_call _ _) fun _ => ?_
  refine records_bind (records_call _ _) fun _ => ?_
  exact captureBootLog_records bench config

theorem exercise_records (bench : Bench ω) (config : Config) :
    Records (exercise bench.recorded config) (exercise bench config) (exercising config) := by
  refine records_bind (records_mapError _ (Console.send_records _ _ _)) fun versionOutput => ?_
  refine records_note _ _ ?_
  exact records_bind (tryParameter_records bench config) fun roundTrip => records_pure _

theorem conclude_records (bench : Bench ω) (config : Config) (bootLog : String)
    (bootLogPath : Bytes) (versionOutput : String) (roundTrip : RoundTrip) :
    Records (conclude bench.recorded config bootLog bootLogPath versionOutput roundTrip)
      (conclude bench config bootLog bootLogPath versionOutput roundTrip)
      (concluding config bootLog bootLogPath versionOutput roundTrip) := by
  refine records_bind (Archive.save_records _ _ _ _ _) fun versionLogPath => ?_
  refine records_note _ _ ?_
  exact records_bind (records_act _ _) fun _ => records_pure _

variable {warned : ω → List Record}

-- A session that is recorded has a story: what it does, how it ends, and what it warns of.
def Tells (warned : ω → List Record) (session : Session (ω × List Effect) RunError α)
    (story : List Effect → Except (Stop RunError) α → List Warning → Prop) : Prop :=
  ∀ world past, ∃ result after effects warnings,
    session.runIn (world, past) = (result, after, past ++ effects) ∧
    story effects result warnings ∧ warned after = warned world ++ warnings.map Warning.record

theorem tells_of_records {recorded : Session (ω × List Effect) RunError α}
    {plain : Session ω RunError α} {course : Course RunError α}
    (hrecords : Records recorded plain course)
    (hspares : Spares (fun world => warned world.1) recorded) :
    Tells warned recorded fun effects result warnings =>
      course effects result ∧ warnings = [] := by
  intro world past
  obtain ⟨effects, hrun, hcourse⟩ := hrecords world past
  have hspared := hspares (world, past)
  rw [hrun] at hspared
  exact ⟨_, _, effects, [], hrun, ⟨hcourse, rfl⟩, hspared.trans (List.append_nil _).symm⟩

-- What comes after a stage belongs to the story if the stage goes all the way.
theorem Tells.after {recorded : Session (ω × List Effect) RunError α}
    {plain : Session ω RunError α} {course : Course RunError α}
    {next : α → Session (ω × List Effect) RunError β}
    {story : α → List Effect → Except (Stop RunError) β → List Warning → Prop}
    (hnext : ∀ a, Tells warned (next a) (story a)) (hrecords : Records recorded plain course)
    (hspares : Spares (fun world => warned world.1) recorded) :
    Tells warned (recorded >>= next) fun effects result warnings =>
      (∃ stop, course effects (.error stop) ∧ result = .error stop ∧ warnings = []) ∨
      ∃ a before later, course before (.ok a) ∧ story a later result warnings ∧
        effects = before ++ later := by
  intro world past
  obtain ⟨first, middle, before, _, hrun, ⟨hcourse, rfl⟩, hwarned⟩ :=
    tells_of_records hrecords hspares world past
  rw [List.map_nil, List.append_nil] at hwarned
  cases first with
  | error stop =>
      refine ⟨_, middle, before, [], runIn_bind_of_error hrun, .inl ⟨stop, hcourse, rfl, rfl⟩, ?_⟩
      rw [hwarned, List.map_nil, List.append_nil]
  | ok a =>
      obtain ⟨result, after, later, warnings, hlater, hstory, hafter⟩ :=
        hnext a middle (past ++ before)
      refine ⟨result, after, before ++ later, warnings, ?_,
        .inr ⟨a, before, later, hcourse, hstory, rfl⟩, hwarned ▸ hafter⟩
      rw [runIn_bind_of_ok hrun, hlater, List.append_assoc]

section Warns

variable {bench : Bench ω} (h : bench.Warns warned)

include h

theorem boot_spares (config : Config) : Spares warned (boot bench config) := by
  refine (spares_call h.flash).bind fun _ => ?_
  refine (spares_call (h.openChannel config)).bind fun _ => ?_
  exact captureBootLog_spares h config

theorem exercise_spares (config : Config) : Spares warned (exercise bench config) := by
  refine ((Console.send_spares h.toWarns _ _).mapError _).bind fun versionOutput => ?_
  refine (h.log (by decide) _ _).bind fun _ => ?_
  exact (tryParameter_spares h config).bind fun roundTrip => spares_pure _

theorem conclude_spares (config : Config) (bootLog : String) (bootLogPath : Bytes)
    (versionOutput : String) (roundTrip : RoundTrip) :
    Spares warned (conclude bench config bootLog bootLogPath versionOutput roundTrip) := by
  refine (save_spares h _ _ _).bind fun versionLogPath => ?_
  refine (h.log (by decide) _ _).bind fun _ => ?_
  exact (spares_act h.close).bind fun _ => spares_pure _

theorem Tells.warning {session : Session (ω × List Effect) RunError α}
    {story : List Effect → Except (Stop RunError) α → List Warning → Prop}
    (hsession : Tells warned session story) (warnings : List Warning) :
    Tells warned (warn bench.recorded warnings >>= fun _ => session)
      fun effects result all => ∃ later, story effects result later ∧ all = warnings ++ later := by
  induction warnings with
  | nil =>
      intro world past
      obtain ⟨result, after, effects, later, hrun, hstory, hwarned⟩ := hsession world past
      exact ⟨result, after, effects, later, hrun, ⟨later, hstory, rfl⟩, hwarned⟩
  | cons warning warnings ih =>
      intro world past
      obtain ⟨result, after, effects, _, hrun, ⟨later, hstory, rfl⟩, hwarned⟩ :=
        ih (bench.note ⟨.warn, .smoke, warning.text⟩ world) past
      have hnote : warned (bench.note ⟨.warn, .smoke, warning.text⟩ world) =
          warned world ++ [warning.record] := by
        rw [h.note, if_pos rfl, warning.record_eq]
      refine ⟨result, after, effects, _, hrun, ⟨later, hstory, rfl⟩, ?_⟩
      rw [hwarned, hnote, List.append_assoc, List.singleton_append]
      rfl

omit h in
-- The version output is saved when all warnings are there.
private theorem warned_of_concluding {before tried later : List Effect} {bootLog version : String}
    {path : Bytes} {trip : RoundTrip} {result : Except (Stop RunError) Report}
    (hbooted : booted config before (.ok (bootLog, path)))
    (hexercised : exercising config tried (.ok (version, trip)))
    (hlater : concluding config bootLog path version trip later result) :
    Warned config (before ++ (tried ++ later)) result
      (Warning.ofBootLog bootLog ++ Warning.ofRoundTrip config.parameter trip) := by
  obtain ⟨_, versioned, _, hversion, hrest, rfl⟩ := andThen_ok_iff.mp hexercised
  obtain ⟨_, tried, _, htrying, ⟨rfl, hfound⟩, rfl⟩ := andThen_ok_iff.mp hrest
  cases hfound
  rw [List.append_nil]
  have hjudged := judged_of_trying htrying
  rcases hlater with ⟨stop, hstopped, rfl⟩ | ⟨versionPath, saved, _, hsaved, hclose, rfl⟩
  · exact .saving hbooted hversion hjudged hstopped
  · obtain ⟨_, rfl, rfl, rfl⟩ := act_andThen_iff.mp hclose
    exact .reported hbooted hversion hjudged hsaved rfl

theorem run_tells (config : Config) :
    Tells warned (run bench.recorded config) (Warned config) := by
  have hconclude (booted : String × Bytes) (found : String × RoundTrip) :=
    tells_of_records (conclude_records bench config booted.1 booted.2 found.1 found.2)
      (conclude_spares h.recorded config booted.1 booted.2 found.1 found.2)
  have hexercise (booted : String × Bytes) :=
    Tells.after (fun found : String × RoundTrip =>
      Tells.warning h (hconclude booted found) (Warning.ofRoundTrip config.parameter found.2))
      (exercise_records bench config) (exercise_spares h.recorded config)
  have hboot := Tells.after (fun booted : String × Bytes =>
      Tells.warning h (hexercise booted) (Warning.ofBootLog booted.1))
    (boot_records bench config) (boot_spares h.recorded config)
  rw [run_eq]
  intro world past
  obtain ⟨result, after, effects, warnings, hrun, hstory, hwarned⟩ := hboot world past
  refine ⟨result, after, effects, warnings, hrun, ?_, hwarned⟩
  rcases hstory with ⟨stop, hstopped, rfl, rfl⟩ |
    ⟨⟨bootLog, path⟩, before, later, hbooted, ⟨warnings, hlater, rfl⟩, rfl⟩
  · exact .booting hstopped
  rcases hlater with ⟨stop, hstopped, rfl, rfl⟩ |
    ⟨⟨version, trip⟩, tried, last, hexercised, ⟨_, ⟨hlast, rfl⟩, rfl⟩, rfl⟩
  · rw [List.append_nil]
    exact .exercising hbooted hstopped
  rw [List.append_nil]
  exact warned_of_concluding hbooted hexercised hlast

theorem run_warned (config : Config) (world : ω) :
    ∃ warnings, Warned config (effects bench config world) ((run bench config).runIn world).1
        warnings ∧
      warned ((run bench config).runIn world).2 =
        warned world ++ warnings.map Warning.record := by
  obtain ⟨result, after, effects, warnings, hrun, hstory, hwarned⟩ := run_tells h config world []
  obtain ⟨hresult, hafter⟩ := Prod.mk.inj ((runIn_recorded bench config world).symm.trans hrun)
  obtain ⟨hafter, heffects⟩ := Prod.mk.inj hafter
  rw [hresult, hafter, heffects]
  exact ⟨warnings, hstory, hwarned⟩

end Warns

theorem Warned.eq_of_report {effects : List Effect} {report : Report} {warnings : List Warning}
    (h : Warned config effects (.ok report) warnings) : warnings = report.warnings := by
  cases h
  rfl

-- The lines that are printed for a report on the parameter `name`.
def reportLines (name : String) (report : Report) : List String :=
  ["", "VER ALL OUTPUT:", report.versionOutput] ++
  (match report.roundTrip with
    | .missing _ => ["Failed to read " ++ name]
    | .completed initial temporary updated restored =>
      ["", name ++ " original value: " ++ initial,
        name ++ " updated value: " ++ updated.getD "<none>" ++ " (expected " ++ temporary ++ ")",
        name ++ " restored value: " ++ restored.getD "<none>"]) ++
  ["", "Boot log saved to " ++ Utf8.text report.bootLogPath,
    "VER output archived to " ++ Utf8.text report.versionLogPath, "", "Hardware smoke test complete."]

theorem text_eq_lines (name : String) (report : Report) :
    report.text name ++ Program.successText =
      String.join ((reportLines name report).map (· ++ "\n")) := by
  have hversion : "\nVER ALL OUTPUT:\n" = "\n" ++ ("VER ALL OUTPUT:" ++ "\n") := rfl
  have hsaved : "\nBoot log saved to " = "\n" ++ "Boot log saved to " := rfl
  have hexpected : ")\n" = ")" ++ "\n" := rfl
  have hend : "\nHardware smoke test complete.\n" =
      "\n" ++ ("Hardware smoke test complete." ++ "\n") := rfl
  unfold Report.text Program.successText reportLines Report.roundTripText Report.valueText
  rw [hversion, hsaved, hend]
  cases report.roundTrip <;>
    simp only [hexpected, List.cons_append, List.nil_append, List.map_cons, List.map_nil,
      String.join_cons, String.join_nil, String.append_assoc, String.empty_append,
      String.append_empty]

-- What the program comes to when its test ends so. A report is printed behind what the build tool
-- printed.
inductive Finishes (name : String) (workbench : Workbench) :
    Except (Stop RunError) Report × Workbench → Finish → Prop
  | reported {report : Report} {after : Workbench} {finish : Finish} (hcode : finish.code = 0)
      (hprinted : finish.output = after.output ++
        Utf8.bytes (String.join ((reportLines name report).map (· ++ "\n"))))
      (hwarned : after.warned = workbench.warned ++ report.warnings.map Warning.record)
      (hbench : finish.bench = after) : Finishes name workbench (.ok report, after) finish
  | failed {stop : Stop RunError} {after : Workbench} {finish : Finish} (hcode : finish.code = 1)
      (hprinted : finish.output = after.output) (hbench : finish.bench = after) :
      Finishes name workbench (.error stop, after) finish

theorem finishes_test (filter : RecordFilter) (config : Config) (workbench : Workbench) :
    Finishes config.parameter workbench
      ((run (Workbench.bench (Workbench.upload (Uploader.ofConfig config))
        Workbench.openConfigured) config).runIn workbench)
      (Program.test filter config workbench) := by
  obtain ⟨warnings, hstory, hwarned⟩ := run_warned (Workbench.bench_warns config) config workbench
  rw [Program.test, Program.smokeTest]
  dsimp only
  generalize (run _ config).runIn workbench = ended at hstory hwarned ⊢
  rcases ended with ⟨(error | _) | report, after⟩
  · exact .failed rfl rfl rfl
  · exact .failed rfl rfl rfl
  · refine .reported rfl ?_ (hstory.eq_of_report ▸ hwarned) rfl
    rw [← text_eq_lines]

-- A test warns of exactly what it is worth a warning. A program whose test gave a report prints it and
-- succeeds, whatever was warned of.
theorem warnings_exact :
    (∀ {ω : Type} (bench : Bench ω) (config : Config) (warned : ω → List Record) (world : ω),
      bench.Warns warned →
      ∃ warnings, Warned config (effects bench config world) ((run bench config).runIn world).1
          warnings ∧
        warned ((run bench config).runIn world).2 =
          warned world ++ warnings.map Warning.record) ∧
    ∀ (environment : String → Option Bytes) (arguments : List Bytes) (workbench : Workbench)
      (config : Config),
      CommandLine.parse workbench.clock environment arguments = .ok config →
      Finishes config.parameter workbench
        ((run (Workbench.bench (Workbench.upload (Uploader.ofConfig config))
          Workbench.openConfigured) config).runIn workbench)
        (Program.run environment arguments workbench) := by
  refine ⟨fun bench config warned world h => run_warned h config world, ?_⟩
  intro environment arguments workbench config hparse
  have hfinishes := finishes_test (Program.recordFilter environment).1 config workbench
  rw [Program.run, hparse]
  generalize (run _ config).runIn workbench = ended at hfinishes ⊢
  cases hfinishes with
  | reported hcode hprinted hwarned hbench => exact .reported hcode hprinted hwarned hbench
  | failed hcode hprinted hbench => exact .failed hcode hprinted hbench

namespace Unrestored

-- A board that takes the second setting without an effect.
def shell : Shell := ⟨Utf8.bytes "v1\r\n", [("P", "1")], false, [1], 0⟩

-- The build tool `/m` prints its arguments, and the board is at `/d`.
def workbench : Workbench where
  tree := ⟨[([Utf8.bytes "m"], .program "echo"), ([Utf8.bytes "d"], .device .terminal)], []⟩
  link := .terminal
    { name := "", baudRate := 0, readTimeout := .zero, input := [], output := [], boot := none
      board := ⟨[], .shell shell⟩, connected := true }
  clock := 0
  localTime := ⟨2025, 1, 1, 0, 0, 0⟩
  output := []
  notices := []
  events := []

def arguments : List Bytes :=
  ["--port", "/d", "--target", "t", "--build-tool", "/m", "--boot-capture", "0", "--param", "P",
    "--probe-value", "7", "--fallback-value", "8", "--log-root", "l"].map Utf8.bytes

def settings : Config :=
  { Config.standard with
    device := "/d", buildTool := "/m", buildTarget := "t", bootCapture := .zero
    logRoot := Utf8.bytes "l", parameter := "P", probeValue := "7", fallbackValue := "8" }

def report : Report where
  bootLog := ""
  bootLogPath := Utf8.bytes "l/boot_20250101_000000.log"
  versionOutput := "v1\r\nnsh> "
  versionLogPath := Utf8.bytes "l/latest_ver_all.log"
  roundTrip := .completed "1" "7" (some "7") (some "7")
  warnings := [.emptyBootLog, .parameterNotRestored "P"]

end Unrestored

-- The boot log is empty and the parameter is not set back. Still, the report is printed.
theorem unrestored_warns_exactly :
    let records : List Record :=
      [⟨.warn, .smoke, "No boot output captured - continuing anyway"⟩,
        ⟨.warn, .smoke, "P did not read back its original value after restoring"⟩]
    let bench := (Playback.bench 4).warning
    let heard : Playback.Hearing := { Playback.obedient with third := "P 7 \r\nnsh> " }
    let world : Playback × List Record := (heard.playback, [])
    let after := ((run bench Playback.config).runIn world).2
    let finish := Program.run (fun _ => none) Unrestored.arguments Unrestored.workbench
    (after.2 = records ∧
      bench.Warns Prod.snd ∧
      ∃ warnings, Warned Playback.config (effects bench Playback.config world)
          ((run bench Playback.config).runIn world).1 warnings ∧
        after.2 = [] ++ warnings.map Warning.record) ∧
    finish.code = 0 ∧ finish.bench.warned = records ∧
      finish.output = Utf8.bytes ("t upload\n" ++ "\nVER ALL OUTPUT:\n" ++ "v1\r\nnsh> \n" ++
        "\nP original value: 1\n" ++ "P updated value: 7 (expected 7)\n" ++ "P restored value: 7\n" ++
        "\nBoot log saved to l/boot_20250101_000000.log\n" ++
        "VER output archived to l/latest_ver_all.log\n" ++ "\nHardware smoke test complete.\n") := by
  intro records bench heard world after finish
  have hrecords : after.2 = records := by decide +kernel
  have hwarns : bench.Warns Prod.snd := (Playback.bench 4).warning_warns
  refine ⟨⟨hrecords, hwarns, warnings_exact.1 bench Playback.config Prod.snd world hwarns⟩, ?_⟩
  have hparse : CommandLine.parse Unrestored.workbench.clock (fun _ => none) Unrestored.arguments =
      .ok Unrestored.settings := by decide +kernel
  have hfinishes := warnings_exact.2 (fun _ => none) Unrestored.arguments Unrestored.workbench
    Unrestored.settings hparse
  generalize hended : (run _ Unrestored.settings).runIn Unrestored.workbench = ended at hfinishes
  have hresult : ended.1 = .ok Unrestored.report := by
    rw [← hended]
    decide +kernel
  have htool : ended.2.output = Utf8.bytes "t upload\n" := by
    rw [← hended]
    decide +kernel
  cases hfinishes with
  | failed => cases hresult
  | reported hcode hprinted hwarned hbench =>
      obtain rfl := Except.ok.inj hresult
      refine ⟨hcode, ?_, ?_⟩
      · rw [hbench, hwarned]
        decide +kernel
      · rw [hprinted, htool, ← Utf8.bytes_append]
        exact congrArg Utf8.bytes (by decide +kernel)

end SmokeTest

end BoardSmoke
