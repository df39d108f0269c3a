import BoardSmoke.Proofs.Link.Inbox
import BoardSmoke.Proofs.Playback

namespace BoardSmoke.SmokeTest

-- The responses that followed the first one about the parameter, given what was found out from them.
def Answered (config : Config) (first : Bytes) (rest : List Utterance) : RoundTrip → Prop
  | .missing response => response = Utf8.text first ∧ rest = []
  | .completed initial temporary updated restored =>
    Parameter.value? (Utf8.text first) config.parameter = some initial ∧
    ∃ changed second back third : Bytes,
      updated = Parameter.value? (Utf8.text second) config.parameter ∧
      restored = Parameter.value? (Utf8.text third) config.parameter ∧
      rest = changingDialogue config initial temporary changed second back third

-- What a test that gives a report heard since the reset: the boot output in parts, one response to
-- each of the first two commands, and those to the others, if there were any.
structure Received (config : Config) (report : Report) (later : List Effect) where
  boot : List Bytes
  version : Bytes
  first : Bytes
  rest : List Utterance
  bootLog_eq : report.bootLog = String.join (boot.map Utf8.text)
  versionOutput_eq : report.versionOutput = Utf8.text version
  answered : Answered config first rest report.roundTrip
  transcript : Transcript later (boot.map .heard ++ (exchangingDialogue "ver all" version ++
    (exchangingDialogue ("param show " ++ config.parameter) first ++ rest)))

def Received.utterances {config : Config} {report : Report} {later : List Effect}
    (received : Received config report later) : List Utterance :=
  received.boot.map .heard ++ (exchangingDialogue "ver all" received.version ++
    (exchangingDialogue ("param show " ++ config.parameter) received.first ++ received.rest))

private theorem answered_of_treating {config : Config} {first : Bytes} {effects : List Effect}
    {roundTrip : RoundTrip} (h : treating config (Utf8.text first) effects (.ok roundTrip)) :
    ∃ rest, Transcript effects rest ∧ Answered config first rest roundTrip := by
  rcases treating_ok h with ⟨_, rfl, rfl⟩ | ⟨initial, hvalue, change, rfl⟩
  · exact ⟨[], .done, rfl, rfl⟩
  · obtain ⟨changed, second, back, third, hsecond, hthird, hrest⟩ := change.transcript
    refine ⟨_, hrest, ?_⟩
    rw [change.roundTrip_eq, hsecond, hthird]
    exact ⟨hvalue, changed, second, back, third, rfl, rfl, rfl⟩

theorem Parts.received {config : Config} {report : Report} (parts : Parts config report) :
    ∃ later, parts.effects = [.flash (.ok ()), .openChannel (.ok ())] ++ .reset (.ok ()) :: later ∧
      Nonempty (Received config report later) := by
  obtain ⟨captured, boot, hcaptured, hboot, hheard⟩ := transcript_of_capturing parts.capturing
  obtain ⟨version, hversion, hversioned⟩ := transcript_of_asking parts.version
  obtain ⟨first, hfirst, hshown⟩ := transcript_of_asking parts.showing
  obtain ⟨rest, hrest, hanswered⟩ := answered_of_treating (hfirst ▸ parts.treating)
  have hsaved := transcript_of_aside (isAside_of_saving parts.saving)
  have hend : Transcript (parts.saved ++ [.close]) [] := hsaved.append (.aside rfl .done)
  have hlast := hrest.append hend
  rw [List.append_nil] at hlast
  refine ⟨captured ++ (parts.versioned ++ (parts.shown ++ (parts.treated ++
    (parts.saved ++ [.close])))), ?_, ⟨boot, version, first, rest, hboot, hversion, hanswered,
      hheard.append (hversioned.append (hshown.append hlast))⟩⟩
  rw [Parts.effects, hcaptured]
  rfl

-- Of a buffered channel, a test hears what arrived since the reset, less what is still buffered. What
-- was buffered before the reset is no part of it.
theorem run_hears_what_arrives (bench : Bench ω) (config : Config) (world : ω) {report : Report}
    {start after : Inbox} (hreport : ((run bench config).runIn world).1 = .ok report)
    (hinbox : Inbox.Run start (effects bench config world) after) :
    ∃ before later : List Effect,
      effects bench config world = before ++ .reset (.ok ()) :: later ∧
      (∀ effect ∈ before, effect.isAside = true) ∧
      ∃ received : Received config report later,
        heardBytes received.utterances ++ after.buffered = after.arrived := by
  have hcourse := course_effects bench config world
  rw [hreport] at hcourse
  obtain ⟨parts, heffects⟩ := course_ok hcourse
  obtain ⟨later, hsplit, ⟨received⟩⟩ := parts.received
  rw [heffects, hsplit] at hinbox ⊢
  refine ⟨_, later, rfl, ?_, received, hinbox.heard received.transcript⟩
  intro effect heffect
  rcases List.mem_cons.mp heffect with rfl | hlast
  · rfl
  · obtain rfl := List.mem_singleton.mp hlast
    rfl

-- What is done when P is unknown, with boot output that is read in two parts.
def haltingEffects : List Effect :=
  let config := Playback.bootingConfig
  let prompt := Utf8.bytes "nsh> "
  [.flash (.ok ()), .openChannel (.ok ()), .reset (.ok ()), .now 0, .now 0, .available (.ok 4),
    .available (.ok 4), .read 4 (.ok ⟨Utf8.bytes "bo", 2⟩), .read 2 (.error (.plain .interrupted)),
    .read 2 (.ok ⟨Utf8.bytes "ot", 2⟩), .now 0, .available (.ok 0), .sleep Console.pollInterval,
    .now 100000000, .localTime ⟨2025, 1, 1, 0, 0, 0⟩, .makeFolders config.logRoot (.ok ()),
    .writeFile (Utf8.bytes "test_data/boot_logs/boot_20250101_000000.log") (Utf8.bytes "boot")
      (.ok ()),
    .write (Utf8.bytes "ver all\n") (.ok ()), .sleep config.versionSettle,
    .available (.ok 5), .read 5 (.ok ⟨prompt, 5⟩),
    .write (Utf8.bytes "param show P\n") (.ok ()), .sleep config.showSettle,
    .available (.ok 5), .read 5 (.ok ⟨prompt, 5⟩), .makeFolders config.logRoot (.ok ()),
    .writeFile (Utf8.bytes "test_data/boot_logs/latest_ver_all.log") prompt (.ok ()), .close]

-- Something is buffered before the reset, and something arrives after the last reading.
theorem run_haltingEffects :
    Inbox.Run ⟨Utf8.bytes "old", Utf8.bytes "old"⟩ haltingEffects
      ⟨Utf8.bytes "boot" ++ Utf8.bytes "nsh> " ++ Utf8.bytes "nsh> " ++ Utf8.bytes "late",
        Utf8.bytes "late"⟩ := by
  refine .step (.aside rfl) (.step (.aside rfl) (.step .discarded ?_))
  refine .arrives (Utf8.bytes "boot") (.step (.aside rfl) (.step (.aside rfl) ?_))
  refine .step .checked (.step .checked ?_)
  refine .take (Utf8.bytes "bo") (Utf8.bytes "ot") (by decide) (by decide) (.step .missed ?_)
  refine .take (Utf8.bytes "ot") [] (by decide) (by decide) ?_
  refine .step (.aside rfl) (.step .checked (.step (.aside rfl) (.step (.aside rfl) ?_)))
  refine .step (.aside rfl) (.step (.aside rfl) (.step (.aside rfl) ?_))
  refine .step .offered (.step (.aside rfl) (.arrives (Utf8.bytes "nsh> ") (.step .checked ?_)))
  refine .take (Utf8.bytes "nsh> ") [] (by decide) (by decide) ?_
  refine .step .offered (.step (.aside rfl) (.arrives (Utf8.bytes "nsh> ") (.step .checked ?_)))
  refine .take (Utf8.bytes "nsh> ") [] (by decide) (by decide) ?_
  refine .step (.aside rfl) (.step (.aside rfl) (.step (.aside rfl) ?_))
  exact .arrives (Utf8.bytes "late") .done

theorem halting_hears_what_arrives :
    let report := Playback.report (.missing "nsh> ") [.parameterMissing "P"]
    let after : Inbox :=
      ⟨Utf8.bytes "boot" ++ Utf8.bytes "nsh> " ++ Utf8.bytes "nsh> " ++ Utf8.bytes "late",
        Utf8.bytes "late"⟩
    ((run (Playback.bench 4) Playback.bootingConfig).runIn Playback.halting).1 = .ok report ∧
    Inbox.Run ⟨Utf8.bytes "old", Utf8.bytes "old"⟩
      (effects (Playback.bench 4) Playback.bootingConfig Playback.halting) after ∧
    ∃ before later : List Effect,
      effects (Playback.bench 4) Playback.bootingConfig Playback.halting =
        before ++ .reset (.ok ()) :: later ∧
      (∀ effect ∈ before, effect.isAside = true) ∧
      ∃ received : Received Playback.bootingConfig report later,
        heardBytes received.utterances ++ after.buffered = after.arrived := by
  intro report after
  have hreport :
      ((run (Playback.bench 4) Playback.bootingConfig).runIn Playback.halting).1 = .ok report := by
    decide +kernel
  have heffects : effects (Playback.bench 4) Playback.bootingConfig Playback.halting =
      haltingEffects := by decide +kernel
  have hinbox : Inbox.Run ⟨Utf8.bytes "old", Utf8.bytes "old"⟩
      (effects (Playback.bench 4) Playback.bootingConfig Playback.halting) after :=
    heffects ▸ run_haltingEffects
  exact ⟨hreport, hinbox, run_hears_what_arrives _ _ _ hreport hinbox⟩

end BoardSmoke.SmokeTest
