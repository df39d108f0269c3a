import BoardSmoke.Proofs.Recording.Failure
import BoardSmoke.Proofs.SmokeTest.Commands

namespace BoardSmoke.SmokeTest

open Course

theorem written_eq_of_calm {effects : List Effect} (h : Calm effects) :
    written effects = attempted effects := by
  induction effects with
  | nil => rfl
  | cons effect rest ih =>
      obtain ⟨heffect, hrest⟩ := calm_cons_iff.mp h
      have hline : effect.written? = effect.attempted? := by
        cases effect with
        | write line outcome =>
            cases outcome with
            | ok _ => rfl
            | error fault => cases heffect
        | _ => rfl
      have hlines : rest.filterMap Effect.written? = rest.filterMap Effect.attempted? := ih hrest
      simp only [written, attempted, List.filterMap_cons, hline, hlines]

-- The parameter was shown with a value, then it was changed and changed back, and was shown with
-- that value again.
def Tested (config : Config) (effects : List Effect) (initial : String) (roundTrip : RoundTrip) :
    Prop :=
  ∃ (response : String) (change : Change config initial roundTrip) (before shown after : List Effect),
    effects = before ++ (shown ++ (change.effects ++ after)) ∧
    showing config shown (.ok response) ∧
    Parameter.value? response config.parameter = some initial ∧
    Parameter.value? change.third config.parameter = some initial

-- A test without warnings captured boot output and wrote all six commands. The parameter had the same
-- value in the first response and in the last one, and was set to the temporary value and back in
-- between. That is another value, unless the settings offer no other one.
theorem clean_run_tested (bench : Bench ω) (config : Config) (world : ω) {report : Report}
    (hreport : ((run bench config).runIn world).1 = .ok report) (hclean : report.warnings = []) :
    report.bootLog ≠ "" ∧
    ∃ initial temporary updated,
      report.roundTrip = .completed initial temporary updated (some initial) ∧
      temporary = RoundTrip.temporaryValue initial config.probeValue config.fallbackValue ∧
      (temporary = initial ↔ config.probeValue = initial ∧ config.fallbackValue = initial) ∧
      written (effects bench config world) =
        commandLines config (some initial) ∧
      Tested config (effects bench config world) initial report.roundTrip := by
  have hcourse := course_effects bench config world
  rw [hreport] at hcourse
  obtain ⟨parts, heffects⟩ := course_ok hcourse
  obtain ⟨hboot, htrip⟩ := List.append_eq_nil_iff.mp (parts.warnings.symm.trans hclean)
  have hrestored := (Warning.ofRoundTrip_eq_nil_iff config.parameter report.roundTrip).mp htrip
  refine ⟨(Warning.ofBootLog_eq_nil_iff report.bootLog).mp hboot, ?_⟩
  rcases treating_ok parts.treating with ⟨_, _, hmissing⟩ | ⟨initial, hvalue, change, htreated⟩
  · rw [hmissing] at hrestored
    cases hrestored
  · have hthird : Parameter.value? change.third config.parameter = some initial := by
      rw [change.roundTrip_eq] at hrestored
      exact of_decide_eq_true hrestored
    have hwritten : written (effects bench config world) =
        commandLines config (some initial) := by
      rw [written_eq_of_calm (settled_ok_iff.mp (course_settled hcourse)),
        attempted_of_ok hcourse, change.roundTrip_eq, RoundTrip.initial?]
    have hsplit : effects bench config world =
        (.flash (.ok ()) :: .openChannel (.ok ()) :: (parts.captured ++ parts.versioned)) ++
          (parts.shown ++ (change.effects ++ (parts.saved ++ [.close]))) := by
      rw [heffects, Parts.effects, htreated]
      simp only [List.cons_append, List.append_assoc]
    exact ⟨initial, _, _, change.roundTrip_eq.trans (by rw [hthird]), rfl,
      RoundTrip.temporaryValue_eq_iff, hwritten,
      parts.response, change, _, _, _, hsplit, parts.showing, hvalue, hthird⟩

theorem booted_obedient_tested :
    let report := Playback.report (.completed "1" "7" (some "7") (some "1")) []
    let world := Playback.obedient.afterBoot "boot"
    ((run (Playback.bench 4) Playback.bootingConfig).runIn world).1 = .ok report ∧
    report.warnings = [] ∧ report.bootLog ≠ "" ∧
    ∃ initial temporary updated,
      report.roundTrip = .completed initial temporary updated (some initial) ∧
      temporary = RoundTrip.temporaryValue initial "7" "8" ∧
      (temporary = initial ↔ "7" = initial ∧ "8" = initial) ∧
      written (effects (Playback.bench 4) Playback.bootingConfig world) =
        commandLines Playback.bootingConfig (some initial) ∧
      Tested Playback.bootingConfig (effects (Playback.bench 4) Playback.bootingConfig world)
        initial report.roundTrip := by
  intro report world
  have hreport :
      ((run (Playback.bench 4) Playback.bootingConfig).runIn world).1 = .ok report := by
    decide +kernel
  exact ⟨hreport, rfl, clean_run_tested _ _ _ hreport rfl⟩

-- A test without warnings need not have read back the other value, as when a board ignores what is
-- set, and the value that was set need not be another one.
theorem clean_run_not_always_changed :
    (¬∀ (bench : Bench Playback) (config : Config) (world : Playback) (report : Report),
      ((run bench config).runIn world).1 = .ok report → report.warnings = [] →
      ∃ initial temporary restored,
        report.roundTrip = .completed initial temporary (some temporary) restored) ∧
    ¬∀ (bench : Bench Playback) (config : Config) (world : Playback) (report : Report),
      ((run bench config).runIn world).1 = .ok report → report.warnings = [] →
      ∃ initial temporary updated restored,
        report.roundTrip = .completed initial temporary updated restored ∧ temporary ≠ initial := by
  constructor
  · intro h
    have hreport : ((run (Playback.bench 4) Playback.bootingConfig).runIn
        (Playback.heedless.afterBoot "boot")).1 =
          .ok (Playback.report (.completed "1" "7" (some "1") (some "1")) []) := by
      decide +kernel
    obtain ⟨initial, temporary, restored, htrip⟩ := h _ _ _ _ hreport rfl
    simp only [Playback.report, RoundTrip.completed.injEq, Option.some.injEq] at htrip
    obtain ⟨_, rfl, hsame, _⟩ := htrip
    exact absurd hsame (by decide)
  · intro h
    let config : Config := { Playback.bootingConfig with probeValue := "1", fallbackValue := "1" }
    have hreport : ((run (Playback.bench 4) config).runIn
        (Playback.heedless.afterBoot "boot")).1 =
          .ok (Playback.report (.completed "1" "1" (some "1") (some "1")) []) := by
      decide +kernel
    obtain ⟨initial, temporary, updated, restored, htrip, hother⟩ := h _ _ _ _ hreport rfl
    simp only [Playback.report, RoundTrip.completed.injEq] at htrip
    exact hother (htrip.2.1.symm.trans htrip.1)

end BoardSmoke.SmokeTest
