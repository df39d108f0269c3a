import BoardSmoke.Proofs.Board.Line
import BoardSmoke.Proofs.Playback

namespace BoardSmoke.SmokeTest

open Session Course Text

def reportsRestored : Except (Stop RunError) Report → Bool
  | .ok report => report.roundTrip.isRestored
  | .error _ => false

variable {echo : Bool} {config : Config} {before after : Line}

-- What stands before the value in an answer.
def heading (echo : Bool) (config : Config) (asked : Line) : Bytes :=
  asked.unread ++
    if echo then Utf8.bytes ("param show " ++ config.parameter ++ Shell.lineEnd) else []

-- A parameter that is set holds the value, whatever is read of the answers.
private theorem changing_sets {initial : String} {effects : List Effect} {roundTrip : RoundTrip}
    (hchanging : changing config initial effects (.ok roundTrip))
    (hline : Line.Run echo before effects after)
    (hname : IsWord config.parameter.toList) (hinitial : IsWord initial.toList)
    (hheld : (before.parameters config.parameter).isSome) :
    after.parameters config.parameter = some initial ∧
      ∃ temporary updated restored, roundTrip = .completed initial temporary updated restored := by
  obtain ⟨_, _, _, a, rfl, hset₁, hrun₁, hrest₁, hline₁⟩ := hline.andThen hchanging
  obtain ⟨_, _, _, b, rfl, hshow₁, hrun₂, hrest₂, hline₂⟩ := hline₁.andThen hrest₁
  obtain ⟨_, _, _, c, rfl, hset₂, hrun₃, hrest₃, hline₃⟩ := hline₂.andThen hrest₂
  obtain ⟨_, _, _, d, rfl, hshow₂, hrun₄, ⟨rfl, htrip⟩, hline₄⟩ := hline₃.andThen hrest₃
  obtain ⟨_, _, hanswer₁, _⟩ := hrun₁.asking hset₁
  obtain ⟨_, _, hanswer₂, _⟩ := hrun₂.asking hshow₁
  obtain ⟨_, _, hanswer₃, _⟩ := hrun₃.asking hset₂
  obtain ⟨_, _, hanswer₄, _⟩ := hrun₄.asking hshow₂
  have hheld' := hanswer₂.kept _ (hanswer₁.kept _ hheld)
  -- only the second setting counts, and it is of the value that was read first
  have hset : c.parameters config.parameter = some initial := by
    rw [(hanswer₃.changed hname hinitial rfl hheld').2, Parameters.set_same]
  refine ⟨?_, _, _, _, Except.ok.inj htrip⟩
  rw [hline₄.of_nil.1, (hanswer₄.shown hname rfl hset).2, hset]

-- The board ends up with the value that was read first, and that is reported as the first one. If
-- the answer with that value started a line and was cut short, if at all, behind the value, then it
-- is the value that the board had before.
def EndsWithFirstReading (echo : Bool) (config : Config) (effects : List Effect)
    (result : Except (Stop RunError) Report) (before after : Line) : Prop :=
  ∃ earlier shown later asked heard response initial,
    effects = earlier ++ shown ++ later ∧
    Line.Run echo before earlier asked ∧ Line.Run echo asked shown heard ∧
    Line.Run echo heard later after ∧
    Utf8.bytes ("param show " ++ config.parameter ++ "\n") ∉ attempted earlier ∧
    showing config shown (.ok response) ∧
    Parameter.value? response config.parameter = some initial ∧
    (∃ report temporary updated restored, result = .ok report ∧
      report.roundTrip = .completed initial temporary updated restored) ∧
    after.parameters config.parameter = some initial ∧
    (StartsLine (heading echo config asked) →
      heard.unread.length ≤ Parameter.trailer.length →
      after.parameters config.parameter = before.parameters config.parameter)

-- Until the boot output is captured, nothing is written.
private theorem starting_keeps {next : String × Bytes → Course RunError Report}
    {effects : List Effect} {report : Report}
    (hcourse : ((Course.call .flash).andThen fun _ => (Course.call .openChannel).andThen fun _ =>
      (capturing config).andThen next) effects (.ok report))
    (hline : Line.Run echo before effects after) :
    ∃ boot earlier later middle, effects = earlier ++ later ∧ Line.Run echo before earlier middle ∧
      next boot later (.ok report) ∧ Line.Run echo middle later after ∧ attempted earlier = [] ∧
      middle.parameters = before.parameters := by
  obtain ⟨_, flashed, _, a, rfl, hflash, hrun₁, hrest₁, hline₁⟩ := hline.andThen hcourse
  obtain ⟨_, opened, _, b, rfl, hopen, hrun₂, hrest₂, hline₂⟩ := hline₁.andThen hrest₁
  obtain ⟨boot, captured, later, c, rfl, hcapture, hrun₃, hrest₃, hline₃⟩ := hline₂.andThen hrest₂
  have hflash₀ : attempted flashed = [] :=
    Writes.attempted_eq_nil (by exact writes_call fun _ _ h => nomatch h) hflash
  have hopen₀ : attempted opened = [] :=
    Writes.attempted_eq_nil (by exact writes_call fun _ _ h => nomatch h) hopen
  have hcapture₀ : attempted captured = [] := (capturing_writes config).attempted_eq_nil hcapture
  refine ⟨boot, flashed ++ (opened ++ captured), later, c, ?_, hrun₁.append (hrun₂.append hrun₃),
    hrest₃, hline₃, ?_, ?_⟩
  · simp only [List.append_assoc]
  · simp only [attempted_append, hflash₀, hopen₀, hcapture₀, List.nil_append]
  · rw [hrun₃.parameters_eq hcapture₀, hrun₂.parameters_eq hopen₀, hrun₁.parameters_eq hflash₀]

private theorem ending_keeps {versionOutput : String} {report : Bytes → Report}
    {effects : List Effect} {last : Report}
    (hcourse : ((Archive.saving config.logRoot Archive.versionLogName versionOutput).andThen
      fun path => (Course.act .close).andThen fun _ => .still (.ok (report path))) effects (.ok last))
    (hline : Line.Run echo before effects after) :
    after.parameters = before.parameters ∧ ∃ path, last = report path := by
  obtain ⟨path, saved, _, a, rfl, hsave, hrun₁, hrest₁, hline₁⟩ := hline.andThen hcourse
  obtain ⟨_, closed, _, b, rfl, hclose, hrun₂, ⟨rfl, hreport⟩, hline₂⟩ := hline₁.andThen hrest₁
  refine ⟨?_, path, Except.ok.inj hreport⟩
  rw [hline₂.of_nil.1, hrun₂.parameters_eq ((writes_act rfl).attempted_eq_nil hclose),
    hrun₁.parameters_eq ((saving_writes _ _ _).attempted_eq_nil hsave)]

-- A parameter that was restored has the value that was read first, whenever the answers arrive.
theorem restored_to_first_reading (bench : Bench ω) (config : Config) (world : ω) {value : String}
    (hname : IsWord config.parameter.toList) (hvalue : IsWord value.toList)
    (hheld : before.parameters config.parameter = some value)
    (hline : Line.Run echo before (effects bench config world) after)
    (hrestored : reportsRestored ((run bench config).runIn world).1 = true) :
    EndsWithFirstReading echo config (effects bench config world)
      ((run bench config).runIn world).1 before after := by
  have hcourse := course_effects bench config world
  generalize effects bench config world = effects at hline hcourse ⊢
  generalize ((run bench config).runIn world).1 = result at hrestored hcourse ⊢
  obtain _ | report := result
  · cases hrestored
  simp only [course, trying, andThen_assoc] at hcourse
  obtain ⟨_, earlier, _, started, rfl, hrun₁, hrest₁, hline₁, hsilent, hsame⟩ :=
    starting_keeps hcourse hline
  obtain ⟨_, versioned, _, asked, rfl, hversion, hrun₂, hrest₂, hline₂⟩ := hline₁.andThen hrest₁
  obtain ⟨response, shown, _, heard, rfl, hshown, hrun₃, hrest₃, hline₃⟩ := hline₂.andThen hrest₂
  obtain ⟨roundTrip, tried, _, changed, rfl, htried, hrun₄, hrest₄, hline₄⟩ := hline₃.andThen hrest₃
  obtain ⟨hend, path, rfl⟩ := ending_keeps hrest₄ hline₄
  obtain ⟨_, _, hanswer, _⟩ := hrun₂.asking hversion
  have hasked : asked.parameters = before.parameters := (hanswer.version rfl).2.trans hsame
  obtain ⟨answer, bytes, hanswer', rfl, hbytes⟩ := hrun₃.asking hshown
  obtain ⟨rfl, hheard⟩ := hanswer'.shown hname rfl (hasked ▸ hheld)
  cases hinitial : Parameter.value? (Utf8.text bytes) config.parameter with
  -- without a first value nothing is reported as restored
  | none =>
      rw [hinitial] at htried
      obtain ⟨rfl, htrip⟩ := htried
      cases htrip
      cases hrestored
  | some initial =>
      rw [hinitial] at htried
      obtain ⟨hset, temporary, updated, restored, htrip⟩ :=
        changing_sets htried hrun₄ hname (Parameter.isWord_of_value? hinitial)
          (by rw [hheard, hasked, hheld]; rfl)
      refine ⟨earlier ++ versioned, shown, _, asked, heard, _, initial, ?_, hrun₁.append hrun₂,
        hrun₃, hline₃, ?_, hshown, hinitial, ⟨_, temporary, updated, restored, rfl, htrip⟩,
        hend ▸ hset, fun hstart hcut => ?_⟩
      · simp only [List.append_assoc]
      · rw [attempted_append, hsilent, List.nil_append]
        intro hmem
        have hshow := asking_writes _ _ _ _ hversion _ hmem
        exact Console.show_ne_version
          (Console.line_injective (List.mem_singleton.mp hshow))
      · have hanswered : bytes ++ heard.unread =
            heading echo config asked ++ shownValue config.parameter value ++ Shell.prompt := by
          rw [hbytes, reply, heading]
          simp only [List.append_assoc]
        have hfirst := value?_of_heard hname hvalue hstart hanswered hcut
        rw [hfirst] at hinitial
        rw [hend, hset, hheld, hinitial]

-- What a playback does that hears a version, a first value and what comes of changing that.
def heardEffects (heard : Playback.Hearing) (initial : String) : List Effect :=
  let config := Playback.config
  let time : LocalTime := ⟨2025, 1, 1, 0, 0, 0⟩
  let ask (command : String) (settle : Duration) (response : String) :=
    Line.exchanged command settle (Utf8.bytes response)
  [.flash (.ok ()), .openChannel (.ok ()), .reset (.ok ()), .now 0, .now 0, .localTime time,
    .makeFolders config.logRoot (.ok ()),
    .writeFile (Path.join config.logRoot (Archive.bootLogName time)) [] (.ok ())] ++
  (ask "ver all" config.versionSettle heard.version ++
  (ask "param show P" config.showSettle heard.first ++
  (ask "param set P 7" config.setSettle heard.changed ++
  (ask "param show P" config.showSettle heard.second ++
  (ask ("param set P " ++ initial) config.setSettle heard.restored ++
  (ask "param show P" config.showSettle heard.third ++
  [.makeFolders config.logRoot (.ok ()),
    .writeFile (Path.join config.logRoot Archive.versionLogName) (Utf8.bytes heard.version) (.ok ()),
    .close]))))))

-- A line brings these responses if each is a whole answer, but that the rest of the first value comes
-- with the next answer.
theorem run_heardEffects {heard : Playback.Hearing} {board : Parameters} {initial value : String}
    (rest : Bytes) (hheld : board "P" = some value) (hinitial : IsWord initial.toList)
    (h₁ : Utf8.bytes heard.version = reply false "ver all" [])
    (h₂ : Utf8.bytes heard.first ++ rest =
      reply false "param show P" (shownValue "P" value))
    (h₃ : Utf8.bytes heard.changed = rest ++ reply false "param set P 7" [])
    (h₄ : Utf8.bytes heard.second = reply false "param show P" (shownValue "P" "7"))
    (h₅ : Utf8.bytes heard.restored = reply false ("param set P " ++ initial) [])
    (h₆ : Utf8.bytes heard.third =
      reply false "param show P" (shownValue "P" initial)) :
    Line.Run false ⟨board, [], []⟩ (heardEffects heard initial)
      ⟨board.set "P" initial, [], []⟩ := by
  have hname : IsWord "P".toList := by decide
  have hseven : IsWord "7".toList := by decide
  have hset : board.set "P" "7" "P" = some "7" := Parameters.set_same _ _ _
  have hset' : (board.set "P" "7").set "P" initial = board.set "P" initial :=
    Parameters.set_set _ _ _ _
  have hreset : Line.Step false ⟨board, [], []⟩ (.reset (.ok ())) ⟨board, [] ++ [], []⟩ :=
    .discarded
  refine Line.Run.append (b := ⟨board, [], []⟩) ?_ ?_
  · exact .step (.aside rfl) (.step (.aside rfl) (.step hreset (.step (.aside rfl)
      (.step (.aside rfl) (.step (.aside rfl) (.step (.aside rfl) (.step (.aside rfl) .done)))))))
  have hversion : [] ++ reply false "ver all" [] = Utf8.bytes heard.version ++ [] :=
    h₁.symm.trans (List.append_nil _).symm
  refine .append (Line.run_exchanged _ (answers_version []) hversion) ?_
  refine .append (Line.run_exchanged _ (answers_shown hheld) h₂.symm) ?_
  refine .append (Line.run_exchanged _ (answers_changed hname hseven)
    (h₃.symm.trans (List.append_nil _).symm)) ?_
  refine .append (Line.run_exchanged _ (answers_shown hset)
    (h₄.symm.trans (List.append_nil _).symm)) ?_
  refine .append (Line.run_exchanged _ (answers_changed hname hinitial)
    (h₅.symm.trans (List.append_nil _).symm)) ?_
  rw [hset']
  refine .append (Line.run_exchanged _ (answers_shown (Parameters.set_same _ _ _))
    (h₆.symm.trans (List.append_nil _).symm)) ?_
  exact .step (.aside rfl) (.step (.aside rfl) (.step (.aside rfl) .done))

def boardWith (value : String) : Line :=
  ⟨fun name => if name = "P" then some value else none, [], []⟩

theorem obedient_restored_to_first_reading :
    reportsRestored
      ((run (Playback.bench 4) Playback.config).runIn Playback.obedient.playback).1 = true ∧
    EndsWithFirstReading false Playback.config
      (effects (Playback.bench 4) Playback.config Playback.obedient.playback)
      ((run (Playback.bench 4) Playback.config).runIn Playback.obedient.playback).1
      (boardWith "1") ⟨(boardWith "1").parameters.set "P" "1", [], []⟩ := by
  have hrestored : reportsRestored
      ((run (Playback.bench 4) Playback.config).runIn Playback.obedient.playback).1 = true := by
    decide +kernel
  have heffects : effects (Playback.bench 4) Playback.config Playback.obedient.playback =
      heardEffects Playback.obedient "1" := by decide +kernel
  have hline : Line.Run false (boardWith "1") (heardEffects Playback.obedient "1")
      ⟨(boardWith "1").parameters.set "P" "1", [], []⟩ :=
    run_heardEffects (Utf8.bytes "") (if_pos rfl) (by decide) (by decide) (by decide) (by decide)
      (by decide) (by decide) (by decide)
  have hheld : (boardWith "1").parameters Playback.config.parameter = some "1" := by decide
  exact ⟨hrestored, restored_to_first_reading _ _ _ (by decide) (by decide) hheld
    (heffects ▸ hline) hrestored⟩

-- A restored parameter need not have the value that it had before: an answer that is cut inside the
-- value makes the board end up with the part that was read.
theorem restored_not_always_unchanged :
    ¬∀ (bench : Bench Playback) (config : Config) (world : Playback) (echo : Bool)
      (before after : Line) (value : String),
      IsWord config.parameter.toList → IsWord value.toList →
      before.parameters config.parameter = some value →
      Line.Run echo before (effects bench config world) after →
      reportsRestored ((run bench config).runIn world).1 = true →
      after.parameters config.parameter = before.parameters config.parameter := by
  intro h
  have hrestored : reportsRestored
      ((run (Playback.bench 4) Playback.config).runIn Playback.hasty.playback).1 = true := by
    decide +kernel
  have heffects : effects (Playback.bench 4) Playback.config Playback.hasty.playback =
      heardEffects Playback.hasty "60" := by decide +kernel
  have hline : Line.Run false (boardWith "601") (heardEffects Playback.hasty "60")
      ⟨(boardWith "601").parameters.set "P" "60", [], []⟩ :=
    run_heardEffects (Utf8.bytes "1 \r\nnsh> ") (if_pos rfl) (by decide) (by decide) (by decide)
      (by decide) (by decide) (by decide) (by decide)
  have hsame := h _ _ _ _ _ _ "601" (by decide) (by decide) rfl (heffects ▸ hline) hrestored
  exact absurd hsame (by decide)

end BoardSmoke.SmokeTest
