import BoardSmoke.Proofs.Recording.SmokeTest

namespace BoardSmoke

-- The line that was offered to the channel, and the line that the channel took.
def Effect.attempted? : Effect → Option Bytes
  | .write line _ => some line
  | _ => none

def Effect.written? : Effect → Option Bytes
  | .write line (.ok ()) => some line
  | _ => none

def attempted (effects : List Effect) : List Bytes := effects.filterMap Effect.attempted?

def written (effects : List Effect) : List Bytes := effects.filterMap Effect.written?

theorem attempted_append (before after : List Effect) :
    attempted (before ++ after) = attempted before ++ attempted after :=
  List.filterMap_append

theorem written_append (before after : List Effect) :
    written (before ++ after) = written before ++ written after :=
  List.filterMap_append

theorem mem_attempted_iff {line : Bytes} {effects : List Effect} :
    line ∈ attempted effects ↔ ∃ outcome, .write line outcome ∈ effects := by
  rw [attempted, List.mem_filterMap]
  constructor
  · rintro ⟨effect, hmem, heffect⟩
    cases effect <;> simp only [Effect.attempted?, reduceCtorEq, Option.some.injEq] at heffect
    subst heffect
    exact ⟨_, hmem⟩
  · rintro ⟨outcome, hmem⟩
    exact ⟨_, hmem, rfl⟩

theorem mem_written_iff {line : Bytes} {effects : List Effect} :
    line ∈ written effects ↔ .write line (.ok ()) ∈ effects := by
  rw [written, List.mem_filterMap]
  constructor
  · rintro ⟨effect, hmem, heffect⟩
    cases effect with
    | write line' outcome =>
        cases outcome with
        | ok _ =>
            cases heffect
            exact hmem
        | error fault => cases heffect
    | _ => cases heffect
  · exact fun hmem => ⟨_, hmem, rfl⟩

namespace Course

variable {ε ε' α β : Type} {lines : List Bytes}

-- Whichever way the course is taken, only these lines are offered to the channel.
def Writes (lines : List Bytes) (course : Course ε α) : Prop :=
  ∀ effects result, course effects result → ∀ line ∈ attempted effects, line ∈ lines

theorem Writes.attempted_eq_nil {course : Course ε α} (h : Writes [] course)
    {effects : List Effect} {result : Except (Stop ε) α} (hcourse : course effects result) :
    attempted effects = [] :=
  List.eq_nil_of_subset_nil (h effects result hcourse)

theorem writes_iff_only {course : Course ε α} :
    Writes lines course ↔ Only (fun effect => ∀ line ∈ effect.attempted?, line ∈ lines) course := by
  constructor
  · intro h effects result hcourse effect heffect line hline
    exact h effects result hcourse line (List.mem_filterMap.mpr ⟨effect, heffect, hline⟩)
  · intro h effects result hcourse line hline
    obtain ⟨effect, heffect, hoffered⟩ := List.mem_filterMap.mp hline
    exact h effects result hcourse effect heffect line hoffered

theorem writes_still (result : Except (Stop ε) α) : Writes lines (still result) :=
  writes_iff_only.mpr (only_still result)

theorem writes_call {effect : Except ε α → Effect}
    (h : ∀ outcome, ∀ line ∈ (effect outcome).attempted?, line ∈ lines) :
    Writes lines (call effect) :=
  writes_iff_only.mpr (only_call h)

theorem writes_query {effect : α → Effect} (h : ∀ value, (effect value).attempted? = none) :
    Writes lines (query effect : Course ε α) :=
  writes_iff_only.mpr (only_query fun value => by simp [h value])

theorem writes_act {effect : Effect} (h : effect.attempted? = none) :
    Writes lines (act effect : Course ε Unit) :=
  writes_iff_only.mpr (only_act (by simp [h]))

theorem writes_andThen {first : Course ε α} {next : α → Course ε β} (hfirst : Writes lines first)
    (hnext : ∀ a, Writes lines (next a)) : Writes lines (first.andThen next) :=
  writes_iff_only.mpr
    (only_andThen (writes_iff_only.mp hfirst) fun a => writes_iff_only.mp (hnext a))

theorem writes_mapError {f : ε → ε'} {course : Course ε α} (h : Writes lines course) :
    Writes lines (course.mapError f) :=
  writes_iff_only.mpr (only_mapError (writes_iff_only.mp h))

-- The lines that are offered to the channel are the first ones of these, in their order, and all of
-- them if the course goes all the way.
def Sends (lines : List Bytes) (course : Course ε α) : Prop :=
  ∀ effects result, course effects result →
    attempted effects <+: lines ∧ ∀ a, result = .ok a → attempted effects = lines

theorem Writes.sends {course : Course ε α} (h : Writes [] course) : Sends [] course := by
  intro effects result hcourse
  rw [h.attempted_eq_nil hcourse]
  exact ⟨List.prefix_rfl, fun _ _ => rfl⟩

theorem Sends.writes {course : Course ε α} (h : Sends lines course) : Writes lines course :=
  fun effects result hcourse _ hline => (h effects result hcourse).1.subset hline

theorem sends_call {effect : Except ε α → Effect} {line : Bytes}
    (h : ∀ outcome, (effect outcome).attempted? = some line) : Sends [line] (call effect) := by
  rintro _ _ ⟨outcome, rfl, rfl⟩
  have hline : attempted [effect outcome] = [line] := by simp [attempted, h]
  exact ⟨hline ▸ List.prefix_rfl, fun _ _ => hline⟩

-- A course that sends its lines stops among them, or sends them all and goes on.
theorem Sends.stops_or_goesOn {first : Course ε α} {next : α → Course ε β}
    {effects : List Effect} {result : Except (Stop ε) β} (hfirst : Sends lines first)
    (h : first.andThen next effects result) :
    ((∃ stop, result = .error stop) ∧ attempted effects <+: lines) ∨
    ∃ a before later, first before (.ok a) ∧ next a later result ∧ effects = before ++ later ∧
      attempted before = lines := by
  rcases h with ⟨stop, h, rfl⟩ | ⟨a, before, later, h, hlater, rfl⟩
  · exact .inl ⟨⟨stop, rfl⟩, (hfirst _ _ h).1⟩
  · exact .inr ⟨a, before, later, h, hlater, rfl, (hfirst _ _ h).2 a rfl⟩

theorem sends_andThen {later : List Bytes} {first : Course ε α} {next : α → Course ε β}
    (hfirst : Sends lines first) (hnext : ∀ a, Sends later (next a)) :
    Sends (lines ++ later) (first.andThen next) := by
  intro effects result h
  rcases hfirst.stops_or_goesOn h with ⟨⟨stop, rfl⟩, hstopped⟩ | ⟨a, _, _, _, hafter, rfl, hall⟩
  · exact ⟨hstopped.trans (List.prefix_append _ _), fun _ hok => nomatch hok⟩
  · obtain ⟨hfirst, hok⟩ := hnext a _ _ hafter
    rw [attempted_append, hall]
    exact ⟨(List.prefix_append_right_inj _).mpr hfirst, fun b hb => by rw [hok b hb]⟩

theorem sends_mapError {f : ε → ε'} {course : Course ε α} (h : Sends lines course) :
    Sends lines (course.mapError f) := by
  rintro effects _ ⟨stop | a, hinner, rfl⟩
  · exact ⟨(h _ _ hinner).1, fun _ hok => nomatch hok⟩
  · exact ⟨(h _ _ hinner).1, fun _ _ => (h _ _ hinner).2 a rfl⟩

end Course

open Course

theorem Effect.attempted?_of_isReceiving {lines : List Bytes} (effect : Effect)
    (h : effect.isReceiving = true) : ∀ line ∈ effect.attempted?, line ∈ lines := by
  cases effect <;> simp [Effect.isReceiving, Effect.attempted?] at h ⊢

theorem Channel.reading_writes {lines : List Bytes} : Writes lines Channel.reading :=
  writes_iff_only.mpr (Channel.reading_only Effect.attempted?_of_isReceiving)

namespace Console

variable {lines : List Bytes}

theorem draining_writes (window : Duration) : Writes lines (draining window) :=
  writes_iff_only.mpr (draining_only Effect.attempted?_of_isReceiving window)

theorem exchange_sends (command : String) (settle : Duration) :
    Sends [Utf8.bytes (command ++ "\n")] (exchange command settle) :=
  sends_andThen (sends_call fun _ => rfl) fun _ => Writes.sends
    (writes_andThen (writes_act rfl) fun _ =>
      writes_andThen Channel.reading_writes fun _ => writes_still _)

end Console

namespace SmokeTest

variable {lines : List Bytes}

theorem flash_writes : Writes lines (Course.call .flash) :=
  writes_call fun _ _ h => nomatch h

theorem openChannel_writes : Writes lines (Course.call .openChannel) :=
  writes_call fun _ _ h => nomatch h

theorem asking_sends (command : String) (settle : Duration) :
    Sends [Utf8.bytes (command ++ "\n")] (asking command settle) :=
  sends_mapError (Console.exchange_sends command settle)

theorem asking_writes (command : String) (settle : Duration) :
    Writes [Utf8.bytes (command ++ "\n")] (asking command settle) :=
  (asking_sends command settle).writes

theorem saving_writes (root : Bytes) (name : Name) (text : String) :
    Writes lines (Archive.saving root name text) := by
  refine writes_andThen (writes_mapError (writes_call fun _ _ h => nomatch h)) fun _ => ?_
  refine writes_andThen (writes_mapError (writes_call fun _ _ h => nomatch h)) fun _ => ?_
  exact writes_still _

theorem capturing_writes (config : Config) : Writes lines (capturing config) := by
  refine writes_andThen (writes_mapError (writes_call fun _ _ h => nomatch h)) fun _ => ?_
  refine writes_andThen (writes_mapError (Console.draining_writes _)) fun text => ?_
  refine writes_andThen ?_ fun path => writes_still _
  exact writes_andThen (writes_query fun _ => rfl) fun time => saving_writes _ _ _

end SmokeTest

end BoardSmoke
