import BoardSmoke.Proofs.Console
import BoardSmoke.Proofs.Playback
import BoardSmoke.Proofs.Recording.Writing

namespace BoardSmoke.SmokeTest

open Session Course

def settingLine (config : Config) (value : String) : Bytes :=
  Utf8.bytes ("param set " ++ config.parameter ++ " " ++ value ++ "\n")

-- What is done after the line that sets the parameter was written.
def settling (config : Config) : Course RunError String :=
  ((Course.act (.sleep config.setSettle)).andThen fun _ =>
    Channel.reading.andThen fun bytes => .still (.ok (Utf8.text bytes))).mapError .channelFailed

-- What is done between the line that sets the parameter to another value and the line that sets it
-- back.
def between (config : Config) : Course RunError String :=
  (settling config).andThen fun _ => showing config

-- The parameter was shown for the first time, as `initial`, and the line that sets it to another value
-- was taken right after that.
def Changed (config : Config) (effects : List Effect) (initial : String) (later : List Effect) :
    Prop :=
  ∃ before shown response,
    effects = before ++ shown ++ .write (settingLine config
      (RoundTrip.temporaryValue initial config.probeValue config.fallbackValue)) (.ok ()) :: later ∧
    Utf8.bytes ("param show " ++ config.parameter ++ "\n") ∉ attempted before ∧
    showing config shown (.ok response) ∧
    Parameter.value? response config.parameter = some initial

-- After the change it was attempted to set the parameter back, or else something between the two
-- stopped, and the test with it.
def SetBackOrStopped (config : Config) (effects : List Effect)
    (result : Except (Stop RunError) Report) : Prop :=
  ∃ initial later, Changed config effects initial later ∧
    ((∃ done updated outcome rest, between config done (.ok updated) ∧
        later = done ++ .write (settingLine config initial) outcome :: rest) ∨
      ∃ stop, between config later (.error stop) ∧ result = .error stop)

theorem settingLine_ne_version (config : Config) (value : String) :
    settingLine config value ≠ Utf8.bytes "ver all\n" := fun h =>
  Console.set_ne_version (Console.line_injective h)

theorem settingLine_ne_show (config : Config) (value name : String) :
    settingLine config value ≠ Utf8.bytes ("param show " ++ name ++ "\n") := fun h =>
  Console.set_ne_show (Console.line_injective h)

theorem settingLine_injective {config : Config} {first second : String}
    (h : settingLine config first = settingLine config second) : first = second := by
  have hchars := congrArg String.toList (Console.line_injective h)
  exact String.toList_inj.mp (by simpa using hchars)

theorem setting_eq (config : Config) (value : String) :
    setting config value =
      ((Course.call (.write (settingLine config value))).mapError .channelFailed).andThen
        fun _ => settling config :=
  mapError_andThen _ _ _

private theorem written_later {first : Course RunError α} {next : α → Course RunError β}
    {effects : List Effect} {result : Except (Stop RunError) β} {lines : List Bytes} {line : Bytes}
    (h : first.andThen next effects result) (hwritten : line ∈ written effects)
    (hfirst : Writes lines first) (hline : line ∉ lines) :
    ∃ a before later, first before (.ok a) ∧ next a later result ∧ effects = before ++ later ∧
      line ∈ written later := by
  have habsent {effects : List Effect} {inner : Except (Stop RunError) α}
      (h : first effects inner) : line ∉ written effects := fun hmem =>
    hline (hfirst _ _ h line (mem_attempted_iff.mpr ⟨_, mem_written_iff.mp hmem⟩))
  rcases h with ⟨stop, h, rfl⟩ | ⟨a, before, later, h, hlater, rfl⟩
  · exact absurd hwritten (habsent h)
  · refine ⟨a, before, later, h, hlater, rfl, ?_⟩
    rw [written_append, List.mem_append] at hwritten
    exact hwritten.resolve_left (habsent h)

private theorem starts_with_call {effect : Except ε α → Effect} {f : ε → RunError}
    {next : α → Course RunError β} {effects : List Effect} {result : Except (Stop RunError) β}
    (h : ((Course.call effect).mapError f).andThen next effects result) :
    ∃ outcome later, effects = effect outcome :: later := by
  rcases h with ⟨_, ⟨_, ⟨outcome, rfl, _⟩, _⟩, _⟩ | ⟨_, _, later, ⟨_, ⟨outcome, rfl, _⟩, _⟩, _, rfl⟩
  · exact ⟨outcome, [], rfl⟩
  · exact ⟨outcome, later, rfl⟩

-- Once the first line that sets the parameter was taken, only what comes between it and the next one
-- can keep that one from being offered.
private theorem changing_setsBackOrStops {config : Config} {initial value : String}
    {next : RoundTrip → Course RunError Report} {effects : List Effect}
    {result : Except (Stop RunError) Report}
    (h : ((changing config initial).andThen next) effects result)
    (hwritten : settingLine config value ∈ written effects) :
    ∃ later,
      effects = .write (settingLine config
        (RoundTrip.temporaryValue initial config.probeValue config.fallbackValue)) (.ok ()) :: later ∧
      ((∃ done updated outcome rest, between config done (.ok updated) ∧
          later = done ++ .write (settingLine config initial) outcome :: rest) ∨
        ∃ stop, between config later (.error stop) ∧ result = .error stop) := by
  simp only [changing, andThen_assoc, setting_eq] at h
  rcases h with ⟨_, ⟨inner, ⟨outcome, rfl, rfl⟩, hstop⟩, rfl⟩ |
    ⟨_, _, later, ⟨inner, ⟨outcome, rfl, rfl⟩, hok⟩, hlater, rfl⟩
  · cases outcome with
    | ok _ => cases hstop
    | error fault => exact nomatch hwritten
  · cases outcome with
    | error fault => cases hok
    | ok _ =>
        refine ⟨later, rfl, ?_⟩
        rw [← andThen_assoc] at hlater
        rcases hlater with ⟨stop, hbetween, rfl⟩ | ⟨updated, done, rest, hbetween, hrest, rfl⟩
        · exact .inr ⟨stop, hbetween, rfl⟩
        · obtain ⟨outcome, rest, rfl⟩ := starts_with_call hrest
          exact .inl ⟨done, updated, outcome, rest, hbetween, rfl⟩

private theorem course_setsBackOrStops {config : Config} {value : String} {effects : List Effect}
    {result : Except (Stop RunError) Report} (h : course config effects result)
    (hwritten : settingLine config value ∈ written effects) :
    SetBackOrStopped config effects result := by
  simp only [course, trying, andThen_assoc] at h
  obtain ⟨_, flashed, _, hflash, hopen, rfl, hwritten₁⟩ :=
    written_later h hwritten flash_writes List.not_mem_nil
  obtain ⟨_, opened, _, hopened, hcapture, rfl, hwritten₂⟩ :=
    written_later hopen hwritten₁ openChannel_writes List.not_mem_nil
  obtain ⟨_, captured, _, hcaptured, hversion, rfl, hwritten₃⟩ :=
    written_later hcapture hwritten₂ (capturing_writes config) List.not_mem_nil
  obtain ⟨_, versioned, _, hversioned, hshow, rfl, hwritten₄⟩ :=
    written_later hversion hwritten₃ (asking_writes "ver all" config.versionSettle)
      (mt List.mem_singleton.mp (settingLine_ne_version config value))
  obtain ⟨response, shown, _, hshown, htry, rfl, hwritten₅⟩ :=
    written_later hshow hwritten₄ (asking_writes _ _)
      (mt List.mem_singleton.mp (settingLine_ne_show config value config.parameter))
  cases hvalue : Parameter.value? response config.parameter with
  | none =>
      simp only [hvalue, still_andThen] at htry
      obtain ⟨_, _, _, _, hclose, rfl, hwritten₆⟩ :=
        written_later htry hwritten₅ (saving_writes _ _ _) List.not_mem_nil
      obtain ⟨_, _, _, _, ⟨rfl, _⟩, rfl, hwritten₇⟩ :=
        written_later hclose hwritten₆ (writes_act rfl) List.not_mem_nil
      exact nomatch hwritten₇
  | some initial =>
      simp only [hvalue] at htry
      obtain ⟨later, rfl, hlater⟩ := changing_setsBackOrStops htry hwritten₅
      refine ⟨initial, later, ⟨flashed ++ opened ++ captured ++ versioned, shown, response,
        by simp only [List.append_assoc], ?_, hshown, hvalue⟩, hlater⟩
      rw [attempted_append, attempted_append, attempted_append, flash_writes.attempted_eq_nil hflash,
        openChannel_writes.attempted_eq_nil hopened,
        (capturing_writes config).attempted_eq_nil hcaptured, (asking_sends _ _ _ _ hversioned).2 _ rfl]
      exact mt List.mem_singleton.mp fun hline =>
        Console.show_ne_version (Console.line_injective hline)

-- A value that was set is the temporary one, and is followed by the line that sets the parameter back
-- to the value that was read, unless the test stops before it could be offered: because the channel
-- failed in the response to the change, or in the exchange that shows the parameter again.
theorem run_sets_back_or_stops (bench : Bench ω) (config : Config) (world : ω) (value : String)
    (hset : settingLine config value ∈ written (effects bench config world)) :
    SetBackOrStopped config (effects bench config world) ((run bench config).runIn world).1 :=
  course_setsBackOrStops (course_effects bench config world) hset

theorem playback_sets_back :
    settingLine Playback.config "7" ∈
      written (effects (Playback.bench 4) Playback.config Playback.obedient.playback) ∧
    SetBackOrStopped Playback.config
      (effects (Playback.bench 4) Playback.config Playback.obedient.playback)
      ((run (Playback.bench 4) Playback.config).runIn Playback.obedient.playback).1 :=
  have hset : settingLine Playback.config "7" ∈
      written (effects (Playback.bench 4) Playback.config Playback.obedient.playback) := by decide +kernel
  ⟨hset, run_sets_back_or_stops _ _ _ "7" hset⟩

-- It is not always attempted to set the parameter back: when the response to the change cannot be
-- read, the changed value stays.
theorem not_always_set_back :
    ¬∀ (bench : Bench Playback) (config : Config) (world : Playback) (initial : String)
      (later : List Effect), Changed config (effects bench config world) initial later →
      settingLine config initial ∈ attempted later := by
  intro h
  have hset : settingLine Playback.config "7" ∈
      written (effects (Playback.bench 4) Playback.config Playback.cutOff) := by decide +kernel
  have hlines : attempted (effects (Playback.bench 4) Playback.config Playback.cutOff) =
      [Utf8.bytes "ver all\n", Utf8.bytes "param show P\n",
        Utf8.bytes "param set P 7\n"] := by decide +kernel
  obtain ⟨initial, later, hchanged, _⟩ := course_setsBackOrStops (course_effects _ _ _) hset
  have hlater := h _ _ _ _ _ hchanged
  obtain ⟨before, shown, _, heffects, -, -, -⟩ := hchanged
  rw [heffects, attempted_append] at hlines
  change attempted (before ++ shown) ++ settingLine _ _ :: attempted later = _ at hlines
  have hlength := congrArg List.length hlines
  have hmore := List.length_pos_of_mem hlater
  -- of the three lines, only the last one sets anything
  rcases hearlier : attempted (before ++ shown) with _ | ⟨_, _ | ⟨_, rest⟩⟩ <;>
    rw [hearlier] at hlines hlength
  · exact settingLine_ne_version _ _ (List.cons.inj hlines).1
  · exact settingLine_ne_show _ _ "P" (List.cons.inj (List.cons.inj hlines).2).1
  · simp only [List.length_append, List.length_cons, List.length_nil] at hlength
    omega

end BoardSmoke.SmokeTest
