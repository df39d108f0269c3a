import BoardSmoke.Proofs.Recording.Console

namespace BoardSmoke

open Session

namespace Archive

variable {ω : Type}

-- The folders are made and the file is written, where either may fail.
def saving (root : Bytes) (name : Name) (text : String) : Course RunError Bytes :=
  ((Course.call (.makeFolders root)).mapError (.logNotWritten root)).andThen fun _ =>
    ((Course.call (.writeFile (Path.join root name) (Utf8.bytes text))).mapError
      (.logNotWritten (Path.join root name))).andThen fun _ =>
        .still (.ok (Path.join root name))

-- A boot log is named after the time at which it is written.
def savingBootLog (root : Bytes) (text : String) : Course RunError Bytes :=
  (Course.query .localTime).andThen fun time => saving root (bootLogName time) text

theorem save_records (journal : Journal ω) (disk : Disk ω) (root : Bytes) (name : Name)
    (text : String) :
    Records (save journal.recorded disk.recorded root name text)
      (save journal disk root name text) (saving root name text) := by
  refine records_bind (records_mapError _ (records_call _ _)) fun _ => ?_
  refine records_note _ _ (records_bind (records_mapError _ (records_call _ _)) fun _ => ?_)
  exact records_pure _

end Archive

namespace SmokeTest

variable {ω : Type}

def asking (command : String) (settle : Duration) : Course RunError String :=
  (Console.exchange command settle).mapError .channelFailed

def showing (config : Config) : Course RunError String :=
  asking ("param show " ++ config.parameter) config.showSettle

def setting (config : Config) (value : String) : Course RunError String :=
  asking ("param set " ++ config.parameter ++ " " ++ value) config.setSettle

def capturing (config : Config) : Course RunError (String × Bytes) :=
  ((Course.call .reset).mapError .channelFailed).andThen fun _ =>
    ((Console.draining config.bootCapture).mapError .channelFailed).andThen fun text =>
      (Archive.savingBootLog config.logRoot text).andThen fun path => .still (.ok (text, path))

def changing (config : Config) (initial : String) : Course RunError RoundTrip :=
  let temporary := RoundTrip.temporaryValue initial config.probeValue config.fallbackValue
  (setting config temporary).andThen fun _ =>
    (showing config).andThen fun updated =>
      (setting config initial).andThen fun _ =>
        (showing config).andThen fun restored =>
          .still (.ok (.completed initial temporary
            (Parameter.value? updated config.parameter)
            (Parameter.value? restored config.parameter)))

def trying (config : Config) : Course RunError RoundTrip :=
  (showing config).andThen fun response =>
    match Parameter.value? response config.parameter with
    | none => .still (.ok (.missing response))
    | some initial => changing config initial

def course (config : Config) : Course RunError Report :=
  (Course.call .flash).andThen fun _ =>
    (Course.call .openChannel).andThen fun _ =>
      (capturing config).andThen fun (bootLog, bootLogPath) =>
        (asking "ver all" config.versionSettle).andThen fun versionOutput =>
          (trying config).andThen fun roundTrip =>
            (Archive.saving config.logRoot Archive.versionLogName versionOutput).andThen
              fun versionLogPath =>
                (Course.act .close).andThen fun _ =>
                  .still (.ok {
                    bootLog, bootLogPath, versionOutput, versionLogPath, roundTrip
                    warnings := Warning.ofBootLog bootLog ++
                      Warning.ofRoundTrip config.parameter roundTrip })

theorem captureBootLog_records (bench : Bench ω) (config : Config) :
    Records (captureBootLog bench.recorded config) (captureBootLog bench config)
      (capturing config) := by
  refine records_note _ _ (records_bind (records_mapError _ (records_call _ _)) fun _ => ?_)
  refine records_bind (records_mapError _ (Console.drain_records _ _)) fun text => ?_
  rw [Archive.savingBootLog, Course.andThen_assoc]
  refine records_bind (records_query _ _) fun time => ?_
  refine records_bind (Archive.save_records _ _ _ _ _) fun path => ?_
  exact records_note _ _ (records_pure _)

theorem readParameter_records (bench : Bench ω) (config : Config) :
    Records (readParameter bench.recorded config) (readParameter bench config)
      ((showing config).andThen fun response =>
        .still (.ok ⟨Parameter.value? response config.parameter, response⟩)) := by
  refine (records_mapError _ (records_bind (Console.send_records _ _ _) fun response =>
    records_note _ _ (records_pure _))).mono ?_
  rintro effects _ ⟨inner, h, rfl⟩
  obtain ⟨response, hresponse, rfl⟩ := Course.andThen_still_iff.mp h
  refine Course.andThen_still_iff.mpr
    ⟨response.mapError (Stop.map .channelFailed), ⟨_, hresponse, rfl⟩, ?_⟩
  cases response <;> rfl

theorem setParameter_records (bench : Bench ω) (config : Config) (value : String) :
    Records (setParameter bench.recorded config value) (setParameter bench config value)
      ((setting config value).andThen fun _ => .still (.ok ())) :=
  records_bind (records_mapError _ (Console.send_records _ _ _)) fun _ => records_pure _

theorem tryParameter_records (bench : Bench ω) (config : Config) :
    Records (tryParameter bench.recorded config) (tryParameter bench config)
      (trying config) := by
  refine records_bind_view (readParameter_records bench config) fun response => ?_
  simp only
  cases Parameter.value? response config.parameter with
  | none => exact records_pure _
  | some initial =>
      refine records_note _ _ ?_
      refine records_bind_view (setParameter_records bench config _) fun _ => ?_
      refine records_bind_view (readParameter_records bench config) fun updated => ?_
      refine records_note _ _ ?_
      refine records_bind_view (setParameter_records bench config initial) fun _ => ?_
      refine records_bind_view (readParameter_records bench config) fun restored => ?_
      exact records_note _ _ (records_pure _)

theorem warn_records (bench : Bench ω) (warnings : List Warning)
    {recorded : Session (ω × List Effect) RunError α} {plain : Session ω RunError α}
    {next : Course RunError α} (h : Records recorded plain next) :
    Records (warn bench.recorded warnings >>= fun _ => recorded)
      (warn bench warnings >>= fun _ => plain) next := by
  induction warnings with
  | nil => exact h
  | cons warning rest ih => exact records_note _ _ ih

theorem run_records (bench : Bench ω) (config : Config) :
    Records (run bench.recorded config) (run bench config) (course config) := by
  refine records_bind (records_call _ _) fun _ => ?_
  refine records_bind (records_call _ _) fun _ => ?_
  refine records_bind (captureBootLog_records bench config) fun (bootLog, bootLogPath) => ?_
  refine warn_records bench _ ?_
  refine records_bind (records_mapError _ (Console.send_records _ _ _)) fun versionOutput => ?_
  refine records_note _ _ ?_
  refine records_bind (tryParameter_records bench config) fun roundTrip => ?_
  refine warn_records bench _ ?_
  refine records_bind (Archive.save_records _ _ _ _ _) fun versionLogPath => ?_
  refine records_note _ _ ?_
  exact records_bind (records_act _ _) fun _ => records_pure _

-- What a test does in a world, in order.
def effects (bench : Bench ω) (config : Config) (world : ω) : List Effect :=
  ((run bench.recorded config).runIn (world, [])).2.2

theorem runIn_recorded (bench : Bench ω) (config : Config) (world : ω) :
    (run bench.recorded config).runIn (world, []) =
      (((run bench config).runIn world).1, ((run bench config).runIn world).2,
        effects bench config world) := by
  obtain ⟨effects, hrun, _⟩ := run_records bench config world []
  rw [SmokeTest.effects, hrun]

theorem course_effects (bench : Bench ω) (config : Config) (world : ω) :
    course config (effects bench config world) ((run bench config).runIn world).1 := by
  obtain ⟨effects, hrun, hcourse⟩ := run_records bench config world []
  rwa [SmokeTest.effects, hrun, List.nil_append]

end SmokeTest

end BoardSmoke
