import BoardSmoke.Proofs.Board.Working

namespace BoardSmoke

open Session

variable {ω : Type}

namespace SmokeTest

-- The world in which the capture of boot output starts, right after the reset.
def captureStart (bench : Bench ω) (config : Config) (opened : ω) : ω :=
  let text := "Capturing boot log for " ++ config.bootCapture.text
  (bench.reset (bench.note ⟨.info, .smoke, text⟩ opened)).2

-- How the parameter fared on a board that answers so, with what the board held before and after.
inductive Fared (answers : Parameters → String → Bytes → Parameters → Prop) (config : Config) :
    Parameters → RoundTrip → Parameters → Prop
  | missing {before shown : Parameters} {answer : Bytes}
      (hshow : answers before ("param show " ++ config.parameter) answer shown)
      (hvalue : Parameter.value? (Utf8.text answer) config.parameter = none) :
      Fared answers config before (.missing (Utf8.text answer)) shown
  | completed {before shown changed reshown restored last : Parameters}
      {first second third setting restoring : Bytes} {initial temporary : String}
      (hfirst : answers before ("param show " ++ config.parameter) first shown)
      (hvalue : Parameter.value? (Utf8.text first) config.parameter = some initial)
      (htemporary :
        RoundTrip.temporaryValue initial config.probeValue config.fallbackValue = temporary)
      (hset : answers shown ("param set " ++ config.parameter ++ " " ++ temporary) setting changed)
      (hsecond : answers changed ("param show " ++ config.parameter) second reshown)
      (hrestore : answers reshown ("param set " ++ config.parameter ++ " " ++ initial) restoring
        restored)
      (hthird : answers restored ("param show " ++ config.parameter) third last) :
      Fared answers config before
        (.completed initial temporary (Parameter.value? (Utf8.text second) config.parameter)
          (Parameter.value? (Utf8.text third) config.parameter)) last

end SmokeTest

namespace Bench.Working

open SmokeTest

variable {bench : Bench ω} {answers : Parameters → String → Bytes → Parameters → Prop}
  {outlook : Outlook ω}

theorem save_yields (h : bench.Working answers outlook) {world : ω} (root : Bytes) (name : Name)
    (text : String) (hready : outlook.Ready world) :
    ∃ path after, Yields (fun patience => Archive.save (bench.patient patience).toJournal
        (bench.patient patience).toDisk root name text) world path after ∧
      path = Path.join root name ∧ outlook.Passes world after := by
  obtain ⟨hmade, hpasses⟩ := h.makeFolders root hready
  have hnoted := h.note ⟨.debug, .logs, "Writing " ++ toString (Utf8.bytes text).length ++
    " bytes to " ++ Utf8.text (Path.join root name)⟩ hpasses.ready
  obtain ⟨hwritten, hpasses'⟩ := h.writeFile (Path.join root name) (Utf8.bytes text) hnoted.ready
  refine ⟨Path.join root name, _, ?_, rfl, hpasses.trans (hnoted.trans hpasses')⟩
  refine ((yields_call hmade).mapError (RunError.logNotWritten root)).bind ?_
  refine (yields_act (bench.note ⟨.debug, .logs, _⟩) _).bind ?_
  refine ((yields_call hwritten).mapError (RunError.logNotWritten (Path.join root name))).bind ?_
  exact yields_pure _ _

theorem log_yields (h : bench.Working answers outlook) {world : ω} (level : Level) (text : String)
    (hready : outlook.Ready world) :
    ∃ after, Yields (fun patience => log (bench.patient patience) level text) world () after ∧
      outlook.Passes world after :=
  ⟨_, yields_act (bench.note ⟨level, .smoke, text⟩) world, h.note _ hready⟩

theorem warn_yields (h : bench.Working answers outlook) {world : ω} (warnings : List Warning)
    (hready : outlook.Ready world) :
    ∃ after, Yields (fun patience => warn (bench.patient patience) warnings) world () after ∧
      outlook.Passes world after := by
  induction warnings generalizing world with
  | nil => exact ⟨world, yields_pure _ _, hready, rfl, rfl, List.suffix_refl _, Nat.le_refl _⟩
  | cons warning rest ih =>
      obtain ⟨noted, hlog, hnoted⟩ := h.log_yields .warn warning.text hready
      obtain ⟨after, hrest, hpasses⟩ := ih hnoted.ready
      exact ⟨after, hlog.bind hrest, hnoted.trans hpasses⟩

theorem captureBootLog_yields (h : bench.Working answers outlook) {world : ω} (config : Config)
    (hready : outlook.Ready world)
    (hdeadline : (Clock.deadline? (bench.now (captureStart bench config world)).1
      config.bootCapture).isSome = true) :
    ∃ captured after,
      Yields (fun patience => captureBootLog (bench.patient patience) config) world captured after ∧
      outlook.Ready after ∧
      (outlook.line after).parameters = (outlook.line world).parameters := by
  have hnoted := h.note
    ⟨.info, .smoke, "Capturing boot log for " ++ config.bootCapture.text⟩ hready
  obtain ⟨hreset, hready', hsame⟩ := h.reset hnoted.ready
  obtain ⟨text, drained, hdrain, hdrained, hsame'⟩ := h.drain_yields hready' hdeadline
  have htimed := h.localTime hdrained
  obtain ⟨path, saved, hsave, _, hpasses⟩ := h.save_yields config.logRoot
    (Archive.bootLogName (bench.localTime drained).1) text htimed.ready
  obtain ⟨after, hlog, hnoted'⟩ :=
    h.log_yields .info ("Boot log saved to " ++ Utf8.text path) hpasses.ready
  refine ⟨(text, path), after, ?_, hnoted'.ready, ?_⟩
  · refine (yields_act (bench.note ⟨.info, .smoke, _⟩) world).bind ?_
    refine ((yields_call hreset).mapError RunError.channelFailed).bind ?_
    refine (hdrain.mapError RunError.channelFailed).bind ?_
    exact (yields_query bench.localTime drained).bind (hsave.bind (hlog.bind (yields_pure _ _)))
  · rw [hnoted'.parameters, hpasses.parameters, htimed.parameters, hsame', hsame,
      hnoted.parameters]

-- The parameter is read off the whole answer.
theorem readParameter_yields (h : bench.Working answers outlook) {world : ω} (config : Config)
    (hready : outlook.Ready world) (hunread : (outlook.line world).unread = []) :
    ∃ answer after, answers (outlook.line world).parameters ("param show " ++ config.parameter)
        answer (outlook.line after).parameters ∧
      Yields (fun patience => readParameter (bench.patient patience) config) world
        ⟨Parameter.value? (Utf8.text answer) config.parameter, Utf8.text answer⟩ after ∧
      outlook.Ready after ∧ (outlook.line after).unread = [] := by
  obtain ⟨answer, asked, hanswer, hsend, hasked, hunread'⟩ :=
    h.send_yields ("param show " ++ config.parameter) config.showSettle hready
  rw [hunread, List.nil_append] at hsend
  have hnoted := h.note ⟨.debug, .console, "Parameter " ++ config.parameter ++ " reads " ++
    Text.quoted? (Parameter.value? (Utf8.text answer) config.parameter)⟩ hasked
  refine ⟨answer, _, hnoted.parameters ▸ hanswer, ?_, hnoted.ready,
    hnoted.unread_eq.trans hunread'⟩
  refine (hsend.bind ?_).mapError RunError.channelFailed
  exact (yields_act (bench.note ⟨.debug, .console, _⟩) asked).bind (yields_pure _ _)

theorem setParameter_yields (h : bench.Working answers outlook) {world : ω} (config : Config)
    (value : String) (hready : outlook.Ready world) :
    ∃ answer after,
      answers (outlook.line world).parameters ("param set " ++ config.parameter ++ " " ++ value)
        answer (outlook.line after).parameters ∧
      Yields (fun patience => setParameter (bench.patient patience) config value) world () after ∧
      outlook.Ready after ∧ (outlook.line after).unread = [] := by
  obtain ⟨answer, after, hanswer, hsend, hready', hunread⟩ :=
    h.send_yields ("param set " ++ config.parameter ++ " " ++ value) config.setSettle hready
  exact ⟨answer, after, hanswer,
    (hsend.mapError RunError.channelFailed).bind (yields_pure () after), hready', hunread⟩

theorem tryParameter_yields (h : bench.Working answers outlook) {world : ω} (config : Config)
    (hready : outlook.Ready world) (hunread : (outlook.line world).unread = []) :
    ∃ roundTrip after,
      Yields (fun patience => tryParameter (bench.patient patience) config) world roundTrip after ∧
      Fared answers config (outlook.line world).parameters roundTrip
        (outlook.line after).parameters ∧
      outlook.Ready after := by
  obtain ⟨first, w₁, hfirst, hread₁, hready₁, hunread₁⟩ :=
    h.readParameter_yields config hready hunread
  cases hvalue : Parameter.value? (Utf8.text first) config.parameter with
  | none =>
      refine ⟨.missing (Utf8.text first), w₁, hread₁.bind ?_, .missing hfirst hvalue, hready₁⟩
      simp only [hvalue]
      exact yields_pure _ _
  | some initial =>
      obtain ⟨w₂, hlog₂, hnoted₂⟩ :=
        h.log_yields .info (config.parameter ++ " original value: " ++ initial) hready₁
      obtain ⟨_, w₃, hset, hset₃, hready₃, hunread₃⟩ := h.setParameter_yields config
        (RoundTrip.temporaryValue initial config.probeValue config.fallbackValue) hnoted₂.ready
      obtain ⟨second, w₄, hsecond, hread₄, hready₄, hunread₄⟩ :=
        h.readParameter_yields config hready₃ hunread₃
      obtain ⟨w₅, hlog₅, hnoted₅⟩ := h.log_yields .info (config.parameter ++ " updated value: " ++
        Text.quoted? (Parameter.value? (Utf8.text second) config.parameter)) hready₄
      obtain ⟨_, w₆, hrestore, hset₆, hready₆, hunread₆⟩ :=
        h.setParameter_yields config initial hnoted₅.ready
      obtain ⟨third, w₇, hthird, hread₇, hready₇, hunread₇⟩ :=
        h.readParameter_yields config hready₆ hunread₆
      obtain ⟨w₈, hlog₈, hnoted₈⟩ := h.log_yields .info (config.parameter ++ " restored value: " ++
        Text.quoted? (Parameter.value? (Utf8.text third) config.parameter)) hready₇
      rw [hnoted₂.parameters] at hset
      rw [hnoted₅.parameters] at hrestore
      rw [← hnoted₈.parameters] at hthird
      refine ⟨_, w₈, hread₁.bind ?_, .completed hfirst hvalue rfl hset hsecond hrestore hthird,
        hnoted₈.ready⟩
      simp only [hvalue]
      refine hlog₂.bind (hset₃.bind (hread₄.bind ?_))
      dsimp only
      refine hlog₅.bind (hset₆.bind (hread₇.bind ?_))
      dsimp only
      exact hlog₈.bind (yields_pure _ _)

theorem run_yields (h : bench.Working answers outlook) (config : Config) {world : ω}
    (hready : outlook.Ready world)
    (hdeadline : (Clock.deadline? (bench.now (captureStart bench config
      (bench.openChannel config (bench.flash world).2).2)).1 config.bootCapture).isSome = true) :
    ∃ output asked report after,
      answers (outlook.line world).parameters "ver all" output asked ∧
      Yields (fun patience => run (bench.patient patience) config) world report after ∧
      report.warnings = Warning.ofBootLog report.bootLog ++
        Warning.ofRoundTrip config.parameter report.roundTrip ∧
      Fared answers config asked report.roundTrip (outlook.line after).parameters := by
  obtain ⟨hflash, hflashed, hsame₁⟩ := h.flash hready
  obtain ⟨hopen, hopened, hsame₂⟩ := h.openChannel config hflashed
  obtain ⟨⟨bootLog, bootLogPath⟩, captured, hcapture, hcaptured, hsame₃⟩ :=
    h.captureBootLog_yields config hopened hdeadline
  obtain ⟨warned, hwarn, hpasses₁⟩ := h.warn_yields (Warning.ofBootLog bootLog) hcaptured
  obtain ⟨output, asked, houtput, hsend, hasked, hunread⟩ :=
    h.send_yields "ver all" config.versionSettle hpasses₁.ready
  generalize Utf8.text _ = versionOutput at hsend
  obtain ⟨noted₁, hlog₁, hnoted₁⟩ := h.log_yields .debug (versionCommand ++ " returned " ++
    toString (Utf8.bytes versionOutput).length ++ " bytes") hasked
  obtain ⟨roundTrip, tried, htry, hfared, htried⟩ :=
    h.tryParameter_yields config hnoted₁.ready (hnoted₁.unread_eq.trans hunread)
  obtain ⟨warned', hwarn', hpasses₂⟩ :=
    h.warn_yields (Warning.ofRoundTrip config.parameter roundTrip) htried
  obtain ⟨versionLogPath, saved, hsave, _, hpasses₃⟩ := h.save_yields config.logRoot
    Archive.versionLogName versionOutput hpasses₂.ready
  obtain ⟨noted₂, hlog₂, hnoted₂⟩ :=
    h.log_yields .info ("VER output archived to " ++ Utf8.text versionLogPath) hpasses₃.ready
  let report : Report :=
    { bootLog, bootLogPath, versionOutput, versionLogPath, roundTrip
      warnings := Warning.ofBootLog bootLog ++ Warning.ofRoundTrip config.parameter roundTrip }
  refine ⟨output, (outlook.line asked).parameters, report, bench.close noted₂, ?_, ?_, rfl, ?_⟩
  · rw [← hsame₁, ← hsame₂, ← hsame₃, ← hpasses₁.parameters]
    exact houtput
  · refine (yields_call hflash).bind ((yields_call hopen).bind (hcapture.bind (hwarn.bind ?_)))
    refine (hsend.mapError RunError.channelFailed).bind (hlog₁.bind ?_)
    refine htry.bind (hwarn'.bind (hsave.bind (hlog₂.bind ?_)))
    exact (yields_act bench.close noted₂).bind (yields_pure report _)
  · rw [h.close hnoted₂.ready, hnoted₂.parameters, hpasses₃.parameters, hpasses₂.parameters,
      ← hnoted₁.parameters]
    exact hfared

end Bench.Working

end BoardSmoke
