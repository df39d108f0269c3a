import BoardSmoke.Proofs.Link.Scripted
import BoardSmoke.Proofs.Playback
import BoardSmoke.Proofs.Report
import BoardSmoke.Proofs.SmokeTest.Steps

namespace BoardSmoke.SmokeTest

open Session Text

variable {ω : Type} {bench : Bench ω} {echo : Bool} {outlook : Outlook ω} {config : Config}

-- On a faithful board, the parameter is read as it is, as it was set, and as it was set back.
theorem Fared.round_trips {before after : Parameters} {roundTrip : RoundTrip} {value : String}
    (h : Fared (Answers echo) config before roundTrip after)
    (hname : IsWord config.parameter.toList) (hprobe : IsWord config.probeValue.toList)
    (hfallback : IsWord config.fallbackValue.toList) (hvalue : IsWord value.toList)
    (hheld : before config.parameter = some value) :
    roundTrip = .completed value
        (RoundTrip.temporaryValue value config.probeValue config.fallbackValue)
        (some (RoundTrip.temporaryValue value config.probeValue config.fallbackValue))
        (some value) ∧
      after = before := by
  cases h with
  | missing hshow hnone =>
      cases hnone.symm.trans (hshow.shows hname hvalue hheld).1
  | @completed _ changed _ restored _ _ _ _ _ _ initial temporary hfirst hinitial htemporary hset
      hsecond hrestore hthird =>
      obtain ⟨hread₁, rfl⟩ := hfirst.shows hname hvalue hheld
      obtain rfl := Option.some.inj (hinitial.symm.trans hread₁)
      have hword : IsWord temporary.toList := htemporary ▸
        RoundTrip.temporaryValue_of (fun value => IsWord value.toList) hprobe hfallback
      obtain ⟨_, hchanged⟩ := hset.changed hname hword rfl (Option.isSome_of_eq_some hheld)
      have hheld' : changed config.parameter = some temporary := by
        rw [hchanged, Parameters.set_same]
      obtain ⟨hread₂, rfl⟩ := hsecond.shows hname hword hheld'
      obtain ⟨_, hrestored⟩ := hrestore.changed hname hvalue rfl (Option.isSome_of_eq_some hheld')
      -- the second setting takes back the first one
      rw [hchanged, Parameters.set_set, Parameters.set_eq_self hheld] at hrestored
      obtain ⟨hread₃, rfl⟩ := hthird.shows hname hvalue (hrestored ▸ hheld)
      rw [hread₂, hread₃, htemporary]
      exact ⟨rfl, hrestored⟩

theorem emptyBootLog_of_mem {bootLog name value temporary : String} {updated : Option String}
    {warning : Warning}
    (h : warning ∈ Warning.ofBootLog bootLog ++
      Warning.ofRoundTrip name (.completed value temporary updated (some value))) :
    warning = .emptyBootLog := by
  have htrip : Warning.ofRoundTrip name (.completed value temporary updated (some value)) = [] := by
    simp [Warning.ofRoundTrip, RoundTrip.isRestored]
  rw [htrip, List.append_nil, Warning.ofBootLog] at h
  split at h
  · exact List.mem_singleton.mp h
  · cases h

-- A test of a faithful board that answers at once gives a report, given the patience: the parameter
-- was read as it is, set to the temporary value, read as that, set back and read as it was. There is
-- no warning but that of an empty boot log, and the board holds the parameters that it held before.
theorem run_round_trips (h : bench.Prompt echo outlook) (config : Config) {world : ω}
    {value : String} (hready : outlook.Ready world)
    (hname : IsWord config.parameter.toList) (hprobe : IsWord config.probeValue.toList)
    (hfallback : IsWord config.fallbackValue.toList) (hvalue : IsWord value.toList)
    (hheld : (outlook.line world).parameters config.parameter = some value)
    (hdeadline : (Clock.deadline? (bench.now (captureStart bench config
      (bench.openChannel config (bench.flash world).2).2)).1 config.bootCapture).isSome = true) :
    let temporary := RoundTrip.temporaryValue value config.probeValue config.fallbackValue
    ∃ report after, Yields (fun patience => run (bench.patient patience) config) world report after ∧
      report.roundTrip = .completed value temporary (some temporary) (some value) ∧
      report.roundTrip.isRestored = true ∧
      (∀ warning ∈ report.warnings, warning = .emptyBootLog) ∧
      (outlook.line after).parameters = (outlook.line world).parameters := by
  intro temporary
  obtain ⟨_, asked, report, after, hversion, hyields, hwarnings, hfared⟩ :=
    h.run_yields config hready hdeadline
  rw [(hversion.version rfl).2] at hfared
  obtain ⟨htrip, hsame⟩ := hfared.round_trips hname hprobe hfallback hvalue hheld
  refine ⟨report, after, hyields, htrip, ?_, fun warning hwarning => ?_, hsame⟩
  · rw [htrip]
    exact decide_eq_true rfl
  · rw [hwarnings, htrip] at hwarning
    exact emptyBootLog_of_mem hwarning

theorem choppy_round_trips :
    ∃ report after,
      Yields (fun patience => run ((Scripted.bench 0).patient patience) Playback.config)
        (Scripted.choppy, 0) report after ∧
      report.roundTrip = .completed "1" "7" (some "7") (some "1") ∧
      report.roundTrip.isRestored = true ∧
      (∀ warning ∈ report.warnings, warning = .emptyBootLog) ∧
      after.1.held = Scripted.choppy.held :=
  run_round_trips (Scripted.bench_prompt 0) Playback.config ⟨_, Scripted.choppy_listens⟩ (by decide)
    (by decide) (by decide) (by decide) (by decide) (by decide)

end BoardSmoke.SmokeTest
