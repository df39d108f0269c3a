import BoardSmoke.Proofs.Playback
import BoardSmoke.Proofs.Recording.Failure

namespace BoardSmoke.SmokeTest

open Session Course

inductive Step where
  | flash
  | openChannel
  | reset
  | drain
  | saveBootLog
  -- A command is written and has the time to settle, and what is buffered then is read once.
  | exchange (command : String) (settle : Duration)
  | saveVersionOutput
  | close
  deriving DecidableEq

-- What is done in a step, with the text that is got from it, if any.
def Step.course (config : Config) : Step → Course RunError String
  | .flash => (Course.call .flash).andThen fun _ => .still (.ok "")
  | .openChannel => (Course.call .openChannel).andThen fun _ => .still (.ok "")
  | .reset => ((Course.call .reset).mapError .channelFailed).andThen fun _ => .still (.ok "")
  | .drain => (Console.draining config.bootCapture).mapError .channelFailed
  | .saveBootLog => fun effects result => ∃ text,
      ((Archive.savingBootLog config.logRoot text).andThen fun _ => .still (.ok "")) effects result
  | .exchange command settle => asking command settle
  | .saveVersionOutput => fun effects result => ∃ text,
      ((Archive.saving config.logRoot Archive.versionLogName text).andThen fun _ =>
        .still (.ok "")) effects result
  | .close => (Course.act .close).andThen fun _ => .still (.ok "")

structure Stage where
  step : Step
  effects : List Effect
  outcome : Except (Stop RunError) String

namespace Stage

def Fits (config : Config) (stage : Stage) : Prop :=
  stage.step.course config stage.effects stage.outcome

def Succeeded (stage : Stage) : Prop := ∃ text, stage.outcome = .ok text

end Stage

-- The steps of a test, given the value that the parameter has at first, if it has one.
def steps (config : Config) (initial : Option String) : List Step :=
  let show_ := Step.exchange ("param show " ++ config.parameter) config.showSettle
  let set value := Step.exchange ("param set " ++ config.parameter ++ " " ++ value) config.setSettle
  [.flash, .openChannel, .reset, .drain, .saveBootLog,
    .exchange "ver all" config.versionSettle, show_] ++
  (match initial with
  | none => []
  | some initial =>
    [set (RoundTrip.temporaryValue initial config.probeValue config.fallbackValue), show_,
      set initial, show_]) ++
  [.saveVersionOutput, .close]

-- The value that the parameter has at first: what the response of the seventh step says.
def firstValue? (config : Config) (stages : List Stage) : Option String :=
  match stages[6]?.map Stage.outcome with
  | some (.ok response) => Parameter.value? response config.parameter
  | _ => none

-- The stages go through all the steps, or as far as the first one that stopped.
def Performed (steps : List Step) (stages : List Stage) : Except (Stop RunError) α → Prop
  | .ok _ => stages.map Stage.step = steps ∧ ∀ stage ∈ stages, stage.Succeeded
  | .error stop => ∃ before last, stages = before ++ [last] ∧
      stages.map Stage.step <+: steps ∧ (∀ stage ∈ before, stage.Succeeded) ∧
      last.outcome = .error stop

theorem performed_ok_iff {steps : List Step} {stages : List Stage}
    {result : Except (Stop RunError) α} (h : Performed steps stages result) :
    (∃ a, result = .ok a) ↔ ∀ stage ∈ stages, stage.Succeeded := by
  cases result with
  | ok a => exact ⟨fun _ => h.2, fun _ => ⟨a, rfl⟩⟩
  | error stop =>
      obtain ⟨before, last, rfl, _, _, hlast⟩ := h
      refine ⟨fun ⟨_, hok⟩ => (nomatch hok), fun hall => ?_⟩
      obtain ⟨text, htext⟩ := hall last (by simp)
      rw [hlast] at htext
      cases htext

private def GoesOn (config : Config) (made : List Stage) : Course RunError Report :=
  fun effects result => ∃ stages : List Stage, effects = stages.flatMap Stage.effects ∧
    (∀ stage ∈ stages, stage.Fits config) ∧
    Performed (steps config (firstValue? config (made ++ stages))) (made ++ stages) result

private theorem goesOn_step (step : Step) (text : α → String) {config : Config}
    {made : List Stage} {first : Course RunError α} {next : α → Course RunError Report}
    {effects : List Effect} {result : Except (Stop RunError) Report}
    (h : first.andThen next effects result)
    (hmade : ∀ stage ∈ made, stage.Succeeded)
    (hstep : ∀ effects inner, first effects inner → step.course config effects (inner.map text))
    (hplan : ∀ effects stop, (made ++ [Stage.mk step effects (.error stop)]).map Stage.step <+:
      steps config (firstValue? config (made ++ [Stage.mk step effects (.error stop)])))
    (hnext : ∀ a before later, next a later result →
      GoesOn config (made ++ [Stage.mk step before (.ok (text a))]) later result) :
    GoesOn config made effects result := by
  rcases h with ⟨stop, h, rfl⟩ | ⟨a, before, later, h, hlater, rfl⟩
  · refine ⟨[Stage.mk step effects (.error stop)], by simp, ?_, made, _, rfl, hplan _ _, hmade, rfl⟩
    intro stage hstage
    rw [List.mem_singleton.mp hstage]
    exact hstep _ _ h
  · obtain ⟨stages, rfl, hfits, hperformed⟩ := hnext a before later hlater
    refine ⟨Stage.mk step before (.ok (text a)) :: stages, by simp, ?_, ?_⟩
    · intro stage hstage
      rcases List.mem_cons.mp hstage with rfl | hstage
      · exact hstep _ _ h
      · exact hfits stage hstage
    · simpa using hperformed

private theorem fits_view {first : Course RunError α} {text : α → String}
    (effects : List Effect) (inner : Except (Stop RunError) α) (h : first effects inner) :
    (first.andThen fun a => .still (.ok (text a))) effects (inner.map text) :=
  andThen_still_iff.mpr ⟨inner, h, rfl⟩

private theorem fits_id {course : Course RunError String} (effects : List Effect)
    (inner : Except (Stop RunError) String) (h : course effects inner) :
    course effects (inner.map id) := by
  cases inner <;> exact h

private theorem ending_goesOn {config : Config} {made : List Stage} {versionOutput : String}
    {report : Bytes → Report} {effects : List Effect} {result : Except (Stop RunError) Report}
    (h : ((Archive.saving config.logRoot Archive.versionLogName versionOutput).andThen fun path =>
      (Course.act .close).andThen fun _ => .still (.ok (report path))) effects result)
    (hmade : ∀ stage ∈ made, stage.Succeeded)
    (hsteps : ∀ more, steps config (firstValue? config (made ++ more)) =
      made.map Stage.step ++ [.saveVersionOutput, .close]) :
    GoesOn config made effects result := by
  refine goesOn_step .saveVersionOutput (fun _ => "") h hmade
    (fun _ _ h => ⟨versionOutput, fits_view _ _ h⟩) ?_ fun path before _ h => ?_
  · simp [hsteps]
  refine goesOn_step .close (fun _ => "") h ?_ (fun _ _ => fits_view _ _) ?_
    fun _ _ _ h => ?_
  · simpa [or_imp, forall_and, Stage.Succeeded] using hmade
  · simp [hsteps]
  obtain ⟨rfl, rfl⟩ := h
  refine ⟨[], rfl, by simp, ?_, ?_⟩
  · simp [hsteps]
  · simpa [or_imp, forall_and, Stage.Succeeded] using hmade

private theorem changing_goesOn {config : Config} {made : List Stage} {initial versionOutput : String}
    {report : RoundTrip → Bytes → Report} {effects : List Effect}
    {result : Except (Stop RunError) Report}
    (h : ((changing config initial).andThen fun roundTrip =>
      (Archive.saving config.logRoot Archive.versionLogName versionOutput).andThen fun path =>
        (Course.act .close).andThen fun _ => .still (.ok (report roundTrip path))) effects result)
    (hmade : ∀ stage ∈ made, stage.Succeeded) (hlength : 6 < made.length)
    (hvalue : firstValue? config made = some initial)
    (hsteps : made.map Stage.step = (steps config none).take 7) :
    GoesOn config made effects result := by
  -- the seventh stage is made, so the steps are settled
  have hfirst (more : List Stage) : firstValue? config (made ++ more) = some initial := by
    rw [← hvalue, firstValue?, firstValue?, List.getElem?_append_left hlength]
  simp only [changing, andThen_assoc, still_andThen] at h
  refine goesOn_step (.exchange ("param set " ++ config.parameter ++ " " ++ _) config.setSettle) id h
    hmade fits_id ?_ fun _ _ _ h => ?_
  · simp [hfirst, hsteps, steps]
  refine goesOn_step (.exchange ("param show " ++ config.parameter) config.showSettle) id h
    ?_ fits_id ?_ fun updated _ _ h => ?_
  · simpa [or_imp, forall_and, Stage.Succeeded] using hmade
  · simp [hfirst, hsteps, steps]
  refine goesOn_step (.exchange ("param set " ++ config.parameter ++ " " ++ initial) config.setSettle)
    id h ?_ fits_id ?_ fun _ _ _ h => ?_
  · simpa [or_imp, forall_and, Stage.Succeeded] using hmade
  · simp [hfirst, hsteps, steps]
  refine goesOn_step (.exchange ("param show " ++ config.parameter) config.showSettle) id h
    ?_ fits_id ?_ fun restored _ _ h => ?_
  · simpa [or_imp, forall_and, Stage.Succeeded] using hmade
  · simp [hfirst, hsteps, steps]
  refine ending_goesOn h ?_ ?_
  · simpa [or_imp, forall_and, Stage.Succeeded] using hmade
  · simp [hfirst, hsteps, steps]

private theorem course_goesOn {config : Config} {effects : List Effect}
    {result : Except (Stop RunError) Report} (h : course config effects result) :
    GoesOn config [] effects result := by
  simp only [course, capturing, trying, andThen_assoc, still_andThen] at h
  refine goesOn_step .flash (fun _ => "") h (by simp) (fun _ _ => fits_view _ _) ?_
    fun _ _ _ h => ?_
  · simp [steps]
  refine goesOn_step .openChannel (fun _ => "") h (by simp [Stage.Succeeded])
    (fun _ _ => fits_view _ _) ?_ fun _ _ _ h => ?_
  · simp [steps]
  refine goesOn_step .reset (fun _ => "") h (by simp [Stage.Succeeded])
    (fun _ _ => fits_view _ _) ?_ fun _ _ _ h => ?_
  · simp [steps]
  refine goesOn_step .drain id h (by simp [Stage.Succeeded]) fits_id ?_ fun text _ _ h => ?_
  · simp [steps]
  refine goesOn_step .saveBootLog (fun _ => "") h (by simp [Stage.Succeeded])
    (fun _ _ h => ⟨text, fits_view _ _ h⟩) ?_ fun _ _ _ h => ?_
  · simp [steps]
  refine goesOn_step (.exchange "ver all" config.versionSettle) id h
    (by simp [Stage.Succeeded]) fits_id ?_ fun _ _ _ h => ?_
  · simp [steps]
  refine goesOn_step (.exchange ("param show " ++ config.parameter) config.showSettle) id h
    (by simp [Stage.Succeeded]) fits_id ?_ fun response _ _ h => ?_
  · simp [steps]
  cases hvalue : Parameter.value? response config.parameter with
  | none =>
      simp only [hvalue, still_andThen] at h
      exact ending_goesOn h (by simp [Stage.Succeeded]) (by simp [firstValue?, hvalue, steps])
  | some initial =>
      simp only [hvalue] at h
      exact changing_goesOn h (by simp [Stage.Succeeded]) (by simp) (by simp [firstValue?, hvalue])
        (by simp [steps])

-- A test does its steps in order and stops at the first one that stops, with what stopped it; it
-- gives a report if and only if no step stopped. A failed effect is the last one, and is the error.
theorem run_performs_steps (bench : Bench ω) (config : Config) (world : ω) :
    ∃ stages : List Stage,
      (run bench.recorded config).runIn (world, []) =
        (((run bench config).runIn world).1, ((run bench config).runIn world).2,
          stages.flatMap Stage.effects) ∧
      (∀ stage ∈ stages, stage.Fits config) ∧
      Performed (steps config (firstValue? config stages)) stages
        ((run bench config).runIn world).1 ∧
      ((∃ report, ((run bench config).runIn world).1 = .ok report) ↔
        ∀ stage ∈ stages, stage.Succeeded) ∧
      Settled config.bootCapture (stages.flatMap Stage.effects)
        ((run bench config).runIn world).1 := by
  have hcourse := course_effects bench config world
  obtain ⟨stages, heffects, hfits, hperformed⟩ := course_goesOn hcourse
  exact ⟨stages, by rw [runIn_recorded, heffects], hfits, hperformed,
    performed_ok_iff hperformed, heffects ▸ course_settled hcourse⟩

-- P is 1, is set to 7 and is set back.
theorem obedient_performs_steps :
    let bench := Playback.bench 4
    let world := Playback.obedient.playback
    let result := ((run bench Playback.config).runIn world).1
    let version : Bytes := [0x76, 0x65, 0x72, 0x20, 0x61, 0x6C, 0x6C, 0x0A]
    let show_ : Bytes :=
      [0x70, 0x61, 0x72, 0x61, 0x6D, 0x20, 0x73, 0x68, 0x6F, 0x77, 0x20, 0x50, 0x0A]
    let set (digit : UInt8) : Bytes :=
      [0x70, 0x61, 0x72, 0x61, 0x6D, 0x20, 0x73, 0x65, 0x74, 0x20, 0x50, 0x20, digit, 0x0A]
    let exchange (line : Bytes) (milliseconds : Nat) (response : String) : List Effect :=
      let heard := Utf8.bytes response
      [.write line (.ok ()), .sleep (.ofMilliseconds milliseconds), .available (.ok heard.length),
        .read heard.length (.ok ⟨heard, heard.length⟩)]
    let folder := Utf8.bytes "test_data/boot_logs"
    effects bench Playback.config world =
      [.flash (.ok ()), .openChannel (.ok ()), .reset (.ok ()), .now 0, .now 0,
        .localTime ⟨2025, 1, 1, 0, 0, 0⟩, .makeFolders folder (.ok ()),
        .writeFile (folder ++ Utf8.bytes "/boot_20250101_000000.log") [] (.ok ())] ++
      exchange version 2500 "nsh> " ++ exchange show_ 1000 "P 1 \r\nnsh> " ++
      exchange (set 0x37) 1500 "nsh> " ++ exchange show_ 1000 "P 7 \r\nnsh> " ++
      exchange (set 0x31) 1500 "nsh> " ++ exchange show_ 1000 "P 1 \r\nnsh> " ++
      [.makeFolders folder (.ok ()),
        .writeFile (folder ++ Utf8.bytes "/latest_ver_all.log") (Utf8.bytes "nsh> ") (.ok ()),
        .close] ∧
    ∃ stages : List Stage,
      (run bench.recorded Playback.config).runIn (world, []) =
        (result, ((run bench Playback.config).runIn world).2, stages.flatMap Stage.effects) ∧
      (∀ stage ∈ stages, stage.Fits Playback.config) ∧
      Performed (steps Playback.config (firstValue? Playback.config stages)) stages result ∧
      ((∃ report, result = .ok report) ↔ ∀ stage ∈ stages, stage.Succeeded) ∧
      Settled Playback.config.bootCapture (stages.flatMap Stage.effects) result :=
  ⟨by decide +kernel, run_performs_steps _ _ _⟩

end BoardSmoke.SmokeTest
