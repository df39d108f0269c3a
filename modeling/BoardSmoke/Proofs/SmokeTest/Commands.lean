import BoardSmoke.Proofs.Parameter
import BoardSmoke.Proofs.Recording.Parts
import BoardSmoke.Proofs.Report
import BoardSmoke.Proofs.SmokeTest.Restore

namespace BoardSmoke.SmokeTest

open Course Text

variable {config : Config}

-- The commands of a test, given the value that the parameter has at first, if it has one.
def commands (config : Config) (initial : Option String) : List String :=
  let show_ := "param show " ++ config.parameter
  let set value := "param set " ++ config.parameter ++ " " ++ value
  ["ver all", show_] ++
  match initial with
  | none => []
  | some initial =>
    [set (RoundTrip.temporaryValue initial config.probeValue config.fallbackValue), show_,
      set initial, show_]

def commandLines (config : Config) (initial : Option String) : List Bytes :=
  (commands config initial).map fun command => Utf8.bytes (command ++ "\n")

-- The first response to the command that shows the parameter gives it this value: the value is the
-- second word of a line that starts with the name.
def FirstShown (config : Config) (effects : List Effect) (value : String) : Prop :=
  ∃ before shown later response, effects = before ++ (shown ++ later) ∧
    Utf8.bytes ("param show " ++ config.parameter ++ "\n") ∉ attempted before ∧
    showing config shown (.ok response) ∧
    ∃ line ∈ lines response.toList,
      config.parameter.toList <+: line ∧ (words line)[1]? = some value.toList

-- What is done until the parameter is shown for the first time: the boot log with its path, the
-- version and the response.
def starting (config : Config) : Course RunError ((String × Bytes) × String × String) :=
  (Course.call .flash).andThen fun _ => (Course.call .openChannel).andThen fun _ =>
    (capturing config).andThen fun boot =>
      (asking "ver all" config.versionSettle).andThen fun versionOutput =>
        (showing config).andThen fun response => .still (.ok (boot, versionOutput, response))

def finishing (config : Config) (bootLog : String) (bootLogPath : Bytes)
    (versionOutput response : String) : Course RunError Report :=
  (treating config response).andThen fun roundTrip =>
    (Archive.saving config.logRoot Archive.versionLogName versionOutput).andThen
      fun versionLogPath => (Course.act .close).andThen fun _ => .still (.ok {
        bootLog, bootLogPath, versionOutput, versionLogPath, roundTrip
        warnings := Warning.ofBootLog bootLog ++ Warning.ofRoundTrip config.parameter roundTrip })

theorem course_eq (config : Config) :
    course config = (starting config).andThen fun ((bootLog, bootLogPath), version, response) =>
      finishing config bootLog bootLogPath version response := by
  simp only [course, starting, trying_eq, andThen_assoc, still_andThen]
  rfl

theorem starting_sends (config : Config) :
    Sends (commandLines config none) (starting config) := by
  refine sends_andThen flash_writes.sends fun _ => ?_
  refine sends_andThen openChannel_writes.sends fun _ => ?_
  refine sends_andThen (capturing_writes config).sends fun _ => ?_
  refine sends_andThen (asking_sends _ _) fun _ => ?_
  exact sends_andThen (asking_sends _ _) fun _ => (writes_still _).sends

theorem changing_sends (config : Config) (initial : String) :
    Sends ((commandLines config (some initial)).drop 2) (changing config initial) :=
  sends_andThen (asking_sends _ _) fun _ => sends_andThen (asking_sends _ _) fun _ =>
    sends_andThen (asking_sends _ _) fun _ => sends_andThen (asking_sends _ _) fun _ =>
      (writes_still _).sends

theorem treating_sends (config : Config) (response : String) :
    Sends ((commandLines config (Parameter.value? response config.parameter)).drop 2)
      (treating config response) := by
  rw [treating]
  cases Parameter.value? response config.parameter with
  | none => exact (writes_still _).sends
  | some initial => exact changing_sends config initial

theorem finishing_sends (config : Config) (bootLog : String) (bootLogPath : Bytes)
    (versionOutput response : String) :
    Sends ((commandLines config (Parameter.value? response config.parameter)).drop 2)
      (finishing config bootLog bootLogPath versionOutput response) := by
  have hsaving (roundTrip : RoundTrip) (report : Bytes → Report) :
      Writes [] ((Archive.saving config.logRoot Archive.versionLogName versionOutput).andThen
        fun path => (Course.act .close).andThen fun _ => Course.still (.ok (report path))) :=
    writes_andThen (saving_writes _ _ _) fun _ =>
      writes_andThen (writes_act rfl) fun _ => writes_still _
  have hsends := sends_andThen (treating_sends config response) fun roundTrip =>
    (hsaving roundTrip fun versionLogPath => {
      bootLog, bootLogPath, versionOutput, versionLogPath, roundTrip
      warnings := Warning.ofBootLog bootLog ++
        Warning.ofRoundTrip config.parameter roundTrip }).sends
  rwa [List.append_nil] at hsends

private theorem firstShown_of_starting {effects later : List Effect}
    {boot : String × Bytes} {version response value : String}
    (h : starting config effects (.ok (boot, version, response)))
    (hvalue : Parameter.value? response config.parameter = some value) :
    FirstShown config (effects ++ later) value := by
  obtain ⟨_, flashed, _, hflash, hrest₁, rfl⟩ := andThen_ok_iff.mp h
  obtain ⟨_, opened, _, hopen, hrest₂, rfl⟩ := andThen_ok_iff.mp hrest₁
  obtain ⟨_, captured, _, hcapture, hrest₃, rfl⟩ := andThen_ok_iff.mp hrest₂
  obtain ⟨_, versioned, _, hversion, hrest₄, rfl⟩ := andThen_ok_iff.mp hrest₃
  obtain ⟨_, shown, _, hshown, ⟨rfl, hresponse⟩, rfl⟩ := andThen_ok_iff.mp hrest₄
  cases hresponse
  refine ⟨flashed ++ (opened ++ (captured ++ versioned)), shown, later, response,
    by simp only [List.append_assoc, List.nil_append], ?_, hshown,
    Parameter.exists_line_of_value? hvalue⟩
  rw [attempted_append, attempted_append, attempted_append, flash_writes.attempted_eq_nil hflash,
    openChannel_writes.attempted_eq_nil hopen, (capturing_writes config).attempted_eq_nil hcapture,
    (asking_sends _ _ _ _ hversion).2 _ rfl]
  exact mt List.mem_singleton.mp fun hline =>
    Console.show_ne_version (Console.line_injective hline)

-- The lines of a test are the first ones of its commands, for a value that was shown if there are
-- more than two.
theorem course_commands {effects : List Effect} {result : Except (Stop RunError) Report}
    (h : course config effects result) :
    ∃ initial : Option String,
      attempted effects <+: commandLines config initial ∧
      ∀ value ∈ initial, IsWord value.toList ∧ FirstShown config effects value := by
  rw [course_eq] at h
  rcases (starting_sends config).stops_or_goesOn h with
    ⟨_, hstopped⟩ | ⟨⟨⟨bootLog, path⟩, version, response⟩, before, later, hstart, hlater, rfl, hlines⟩
  · exact ⟨none, hstopped, nofun⟩
  · refine ⟨Parameter.value? response config.parameter, ?_, fun value hvalue =>
      ⟨Parameter.isWord_of_value? hvalue, firstShown_of_starting hstart hvalue⟩⟩
    have hcommands (initial : Option String) : commandLines config initial =
        commandLines config none ++ (commandLines config initial).drop 2 := rfl
    rw [attempted_append, hlines, hcommands]
    exact (List.prefix_append_right_inj _).mpr
      (finishing_sends config bootLog path version response _ _ hlater).1

theorem attempted_of_ok {effects : List Effect} {report : Report}
    (h : course config effects (.ok report)) :
    attempted effects = commandLines config report.roundTrip.initial? := by
  rw [course_eq] at h
  obtain ⟨⟨⟨bootLog, path⟩, version, response⟩, before, later, hstart, hlater, rfl⟩ :=
    andThen_ok_iff.mp h
  have hinitial : Parameter.value? response config.parameter = report.roundTrip.initial? := by
    obtain ⟨roundTrip, treated, _, htreated, hlast, rfl⟩ := andThen_ok_iff.mp hlater
    obtain ⟨_, _, _, _, hclose, rfl⟩ := andThen_ok_iff.mp hlast
    obtain ⟨_, _, _, _, ⟨_, hreport⟩, rfl⟩ := andThen_ok_iff.mp hclose
    cases hreport
    rcases treating_ok htreated with ⟨hvalue, _, rfl⟩ | ⟨initial, hvalue, change, _⟩
    · exact hvalue
    · rw [hvalue, change.roundTrip_eq, RoundTrip.initial?]
  rw [attempted_append, (starting_sends config _ _ hstart).2 _ rfl,
    (finishing_sends config bootLog path version response _ _ hlater).2 _ rfl, hinitial]
  rfl

-- What a test writes, given the value that the parameter has at first, if it is known to have one.
structure WritesCommands (config : Config) (initial : Option String) (effects : List Effect) :
    Prop where
  lines : attempted effects <+: commandLines config initial
  -- A line has one newline, at its end.
  newline : ∀ line ∈ attempted effects, line.count 0x0A = 1 ∧ line.getLast? = some 0x0A
  shown : ∀ value ∈ initial, IsWord value.toList ∧ FirstShown config effects value
  -- A line that sets the parameter is four words.
  words : IsWord config.parameter.toList → IsWord config.probeValue.toList →
    IsWord config.fallbackValue.toList → ∀ value, settingLine config value ∈ attempted effects →
      Text.words (Utf8.decode (settingLine config value)) =
        ["param".toList, "set".toList, config.parameter.toList, value.toList]

private theorem newline_notMem_commands (hname : '\n' ∉ config.parameter.toList)
    (hprobe : '\n' ∉ config.probeValue.toList) (hfallback : '\n' ∉ config.fallbackValue.toList)
    {initial : Option String} (hinitial : ∀ value ∈ initial, IsWord value.toList)
    {command : String} (h : command ∈ commands config initial) : '\n' ∉ command.toList := by
  have hshow : '\n' ∉ ("param show " ++ config.parameter).toList := by
    simp [hname]
  have hset {value : String} (hvalue : '\n' ∉ value.toList) :
      '\n' ∉ ("param set " ++ config.parameter ++ " " ++ value).toList := by
    simp [hname, hvalue]
  cases initial with
  | none =>
      rcases (by simpa [commands] using h : command = _ ∨ command = _) with rfl | rfl
      · decide
      · exact hshow
  | some initial =>
      have htemporary : '\n' ∉
          (RoundTrip.temporaryValue initial config.probeValue config.fallbackValue).toList :=
        RoundTrip.temporaryValue_of (fun value => '\n' ∉ value.toList) hprobe hfallback
      simp only [commands, List.cons_append, List.nil_append, List.mem_cons, List.not_mem_nil,
        or_false] at h
      rcases h with rfl | rfl | rfl | rfl | rfl | rfl
      · decide
      · exact hshow
      · exact hset htemporary
      · exact hshow
      · exact hset (hinitial initial rfl).newline_notMem
      · exact hshow

private theorem eq_of_settingLine_mem {initial : Option String} {value : String}
    (h : settingLine config value ∈ commandLines config initial) :
    ∃ first ∈ initial, value = first ∨
      value = RoundTrip.temporaryValue first config.probeValue config.fallbackValue := by
  cases initial with
  | none =>
      simp [commandLines, commands, settingLine_ne_version, settingLine_ne_show] at h
  | some initial =>
      refine ⟨initial, rfl, ?_⟩
      simp only [commandLines, commands, List.cons_append, List.nil_append, List.map_cons, List.map_nil,
        List.mem_cons, List.not_mem_nil, or_false] at h
      rcases h with h | h | h | h | h | h
      · exact absurd h (settingLine_ne_version config value)
      · exact absurd h (settingLine_ne_show config value config.parameter)
      · exact .inr (settingLine_injective h)
      · exact absurd h (settingLine_ne_show config value config.parameter)
      · exact .inl (settingLine_injective h)
      · exact absurd h (settingLine_ne_show config value config.parameter)

-- Whatever the board sends, a test whose settings have no newlines writes its commands in their
-- order, each as one line, and what it takes over from the board is one word of what it was shown.
theorem run_writes_commands (bench : Bench ω) (config : Config) (world : ω)
    (hname : '\n' ∉ config.parameter.toList) (hprobe : '\n' ∉ config.probeValue.toList)
    (hfallback : '\n' ∉ config.fallbackValue.toList) :
    ∃ initial : Option String,
      WritesCommands config initial (effects bench config world) := by
  obtain ⟨initial, hlines, hshown⟩ := course_commands (course_effects bench config world)
  refine ⟨initial, hlines, ?_, hshown, ?_⟩
  · intro line hline
    obtain ⟨command, hcommand, rfl⟩ := List.mem_map.mp (hlines.subset hline)
    exact Console.line_newline
      (newline_notMem_commands hname hprobe hfallback (fun value h => (hshown value h).1) hcommand)
  · intro hnameWord hprobeWord hfallbackWord value hset
    obtain ⟨first, hfirst, rfl | rfl⟩ := eq_of_settingLine_mem (hlines.subset hset)
    · exact Console.words_setting hnameWord (hshown value hfirst).1
    · exact Console.words_setting hnameWord
        (RoundTrip.temporaryValue_of (fun value => IsWord value.toList) hprobeWord hfallbackWord)

theorem obedient_writes_commands :
    '\n' ∉ Playback.config.parameter.toList ∧ '\n' ∉ Playback.config.probeValue.toList ∧
    '\n' ∉ Playback.config.fallbackValue.toList ∧
    ∃ initial : Option String, WritesCommands Playback.config initial
      (effects (Playback.bench 4) Playback.config Playback.obedient.playback) :=
  have hname : '\n' ∉ Playback.config.parameter.toList := by decide
  have hprobe : '\n' ∉ Playback.config.probeValue.toList := by decide
  have hfallback : '\n' ∉ Playback.config.fallbackValue.toList := by decide
  ⟨hname, hprobe, hfallback, run_writes_commands _ _ _ hname hprobe hfallback⟩

end BoardSmoke.SmokeTest
