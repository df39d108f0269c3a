import BoardSmoke.Proofs.Recording.SmokeTest

namespace BoardSmoke

-- The error that an effect ends a smoke test with. A read that timed out or was interrupted ends
-- none.
def Effect.failure? : Effect → Option RunError
  | .flash (.error error) => some error
  | .openChannel (.error error) => some error
  | .reset (.error fault) => some (.channelFailed fault)
  | .available (.error fault) => some (.channelFailed fault)
  | .read _ (.error fault) =>
    if fault.isTimeout ∨ fault.isInterruption then none else some (.channelFailed fault)
  | .write _ (.error fault) => some (.channelFailed fault)
  | .makeFolders path (.error fault) => some (.logNotWritten path fault)
  | .writeFile path _ (.error fault) => some (.logNotWritten path fault)
  | _ => none

namespace Course

variable {ε α β : Type}

def Calm (effects : List Effect) : Prop := ∀ effect ∈ effects, effect.failure? = none

-- The failure of the last effect is the error, and no effect failed before. The end of a capture
-- may be out of the clock's reach, which is an error without a failed effect.
def EndsWith (window : Duration) (effects : List Effect) (error : RunError) : Prop :=
  ∃ before last, effects = before ++ [last] ∧ Calm before ∧
    (last.failure? = some error ∨
      ∃ start, last = .now start ∧ Clock.deadline? start window = none ∧
        error = .channelFailed (Console.windowTooLong window))

-- How effects and the end of a session belong together.
def Settled (window : Duration) (effects : List Effect) : Except (Stop RunError) α → Prop
  | .error (.failed error) => EndsWith window effects error
  | _ => Calm effects

theorem settled_ok_iff {window : Duration} {effects : List Effect} {a : α} :
    Settled window effects (.ok a) ↔ Calm effects := Iff.rfl

theorem settled_unfinished_iff {window : Duration} {effects : List Effect} :
    Settled window effects (.error .unfinished : Except (Stop RunError) α) ↔ Calm effects :=
  Iff.rfl

-- Every way of taking the course is settled, its failures being errors of the test by `f`.
def Settles (window : Duration) (f : ε → RunError) (course : Course ε α) : Prop :=
  ∀ effects result, course effects result →
    Settled window effects (result.mapError (Stop.map f))

variable {window : Duration} {f : ε → RunError}

theorem calm_nil : Calm [] := by simp [Calm]

theorem calm_cons_iff {effect : Effect} {effects : List Effect} :
    Calm (effect :: effects) ↔ effect.failure? = none ∧ Calm effects := by
  simp [Calm]

theorem Calm.append {before after : List Effect} (hbefore : Calm before) (hafter : Calm after) :
    Calm (before ++ after) :=
  fun effect h => (List.mem_append.mp h).elim (hbefore effect) (hafter effect)

theorem Settled.append {before after : List Effect} {result : Except (Stop RunError) α}
    (h : Settled window after result) (hbefore : Calm before) :
    Settled window (before ++ after) result := by
  rcases result with (error | _) | a
  · obtain ⟨calm, last, hsplit, hcalm, hlast⟩ := h
    exact ⟨before ++ calm, last, by rw [hsplit, List.append_assoc], hbefore.append hcalm, hlast⟩
  · rw [settled_unfinished_iff] at h ⊢
    exact hbefore.append h
  · rw [settled_ok_iff] at h ⊢
    exact hbefore.append h

theorem Settled.cons {effect : Effect} {effects : List Effect} {result : Except (Stop RunError) α}
    (heffect : effect.failure? = none) (h : Settled window effects result) :
    Settled window (effect :: effects) result :=
  h.append (calm_cons_iff.mpr ⟨heffect, calm_nil⟩)

theorem Settled.map {effects : List Effect} {result : Except (Stop ε) α} (g : α → β)
    (h : Settled window effects (result.mapError (Stop.map f))) :
    Settled window effects ((result.map g).mapError (Stop.map f)) := by
  rcases result with (error | _) | a <;> exact h

theorem Settled.stopped {effects : List Effect} {stop : Stop ε}
    (h : Settled window effects ((.error stop : Except (Stop ε) α).mapError (Stop.map f))) :
    Settled window effects ((.error stop : Except (Stop ε) β).mapError (Stop.map f)) := by
  cases stop <;> exact h

theorem settles_still (a : α) : Settles window f (still (.ok a)) := by
  rintro _ _ ⟨rfl, rfl⟩
  exact calm_nil

theorem settles_call {effect : Except ε α → Effect}
    (hok : ∀ a, (effect (.ok a)).failure? = none)
    (herror : ∀ error, (effect (.error error)).failure? = some (f error)) :
    Settles window f (call effect) := by
  rintro _ _ ⟨outcome, rfl, rfl⟩
  cases outcome with
  | ok a => exact calm_cons_iff.mpr ⟨hok a, calm_nil⟩
  | error error => exact ⟨[], _, rfl, calm_nil, .inl (herror error)⟩

theorem settles_query {effect : α → Effect} (h : ∀ a, (effect a).failure? = none) :
    Settles window f (query effect) := by
  rintro _ _ ⟨value, rfl, rfl⟩
  exact calm_cons_iff.mpr ⟨h value, calm_nil⟩

theorem settles_act {effect : Effect} (h : effect.failure? = none) :
    Settles window f (act effect) := by
  rintro _ _ ⟨rfl, rfl⟩
  exact calm_cons_iff.mpr ⟨h, calm_nil⟩

theorem settles_andThen {first : Course ε α} {next : α → Course ε β}
    (hfirst : Settles window f first) (hnext : ∀ a, Settles window f (next a)) :
    Settles window f (first.andThen next) := by
  rintro _ _ (⟨stop, h, rfl⟩ | ⟨a, before, after, h, hafter, rfl⟩)
  · exact (hfirst _ _ h).stopped
  · exact (hnext a _ _ hafter).append (hfirst _ _ h)

theorem settles_mapError {ε' : Type} {g : ε' → ε} {course : Course ε' α}
    (h : Settles window (f ∘ g) course) : Settles window f (course.mapError g) := by
  rintro effects _ ⟨inner, hinner, rfl⟩
  have hsettled := h _ _ hinner
  rcases inner with (error | _) | a <;> exact hsettled

end Course

namespace Channel

open Course

variable {window : Duration}

theorem filling_settles (buffer : Bytes) :
    Settles window .channelFailed (Filling buffer) := by
  intro effects result h
  induction h with
  | full => exact calm_nil
  | nothing _ _ => exact calm_cons_iff.mpr ⟨rfl, calm_nil⟩
  | part _ _ _ ih =>
      exact (ih.cons rfl).map _
  | timedOut _ hfault => exact calm_cons_iff.mpr ⟨by simp [Effect.failure?, hfault], calm_nil⟩
  | interrupted _ hfault _ ih => exact ih.cons (by simp [Effect.failure?, hfault])
  | failed _ htimeout hinterruption =>
      exact ⟨[], _, rfl, calm_nil, .inl (by simp [Effect.failure?, htimeout, hinterruption])⟩
  | unfinished => exact calm_nil

theorem reading_settles : Settles window .channelFailed reading :=
  settles_andThen (settles_call (fun _ => rfl) fun _ => rfl) fun _ => filling_settles _

end Channel

namespace Console

open Course

variable {window : Duration}

theorem draining_deadline_settles (deadline : Nat) :
    Settles window .channelFailed (Draining deadline) := by
  intro effects result h
  induction h with
  | elapsed _ => exact calm_cons_iff.mpr ⟨rfl, calm_nil⟩
  | silent _ _ ih => exact ((ih.cons rfl).cons rfl).cons rfl
  | received _ _ hreads _ ih =>
      have hcalm := (Channel.reading_settles : Settles window _ _) _ _ hreads
      exact (((ih.append hcalm).cons rfl).cons rfl).map _
  | checkFailed _ =>
      exact ⟨[_], _, rfl, calm_cons_iff.mpr ⟨rfl, calm_nil⟩, .inl rfl⟩
  | readStopped _ _ hreads =>
      exact ((Channel.reading_settles _ _ hreads).stopped.cons rfl).cons rfl
  | unfinished _ => exact calm_cons_iff.mpr ⟨rfl, calm_nil⟩

-- The only error without a failed effect is that of a deadline out of reach.
theorem draining_settles : Settles window .channelFailed (draining window) := by
  intro effects result h
  obtain ⟨start, later, rfl, hlater⟩ := query_andThen_iff.mp h
  cases hdeadline : Clock.deadline? start window with
  | none =>
      rw [hdeadline] at hlater
      obtain ⟨rfl, rfl⟩ := hlater
      exact ⟨[], _, rfl, calm_nil, .inr ⟨start, rfl, hdeadline, rfl⟩⟩
  | some deadline =>
      rw [hdeadline] at hlater
      exact (draining_deadline_settles deadline _ _ hlater).cons rfl

theorem exchange_settles (command : String) (settle : Duration) :
    Settles window .channelFailed (exchange command settle) :=
  settles_andThen (settles_call (fun _ => rfl) fun _ => rfl) fun _ =>
    settles_andThen (settles_act rfl) fun _ =>
      settles_andThen Channel.reading_settles fun _ => settles_still _

end Console

namespace SmokeTest

open Course

variable {window : Duration}

theorem saving_settles (root : Bytes) (name : Name) (text : String) :
    Settles window id (Archive.saving root name text) := by
  refine settles_andThen (settles_mapError (settles_call (fun _ => rfl) fun _ => rfl)) fun _ => ?_
  refine settles_andThen (settles_mapError (settles_call (fun _ => rfl) fun _ => rfl)) fun _ => ?_
  exact settles_still _

theorem asking_settles (command : String) (settle : Duration) :
    Settles window id (asking command settle) :=
  settles_mapError (Console.exchange_settles command settle)

theorem capturing_settles (config : Config) :
    Settles config.bootCapture id (capturing config) := by
  refine settles_andThen (settles_mapError (settles_call (fun _ => rfl) fun _ => rfl)) fun _ => ?_
  refine settles_andThen (settles_mapError Console.draining_settles) fun text => ?_
  refine settles_andThen ?_ fun path => settles_still _
  exact settles_andThen (settles_query fun _ => rfl) fun time => saving_settles _ _ _

theorem trying_settles (config : Config) : Settles window id (trying config) := by
  refine settles_andThen (asking_settles _ _) fun response => ?_
  cases Parameter.value? response config.parameter with
  | none => exact settles_still _
  | some initial =>
      refine settles_andThen (asking_settles _ _) fun _ => ?_
      refine settles_andThen (asking_settles _ _) fun updated => ?_
      refine settles_andThen (asking_settles _ _) fun _ => ?_
      exact settles_andThen (asking_settles _ _) fun restored => settles_still _

theorem course_settles (config : Config) : Settles config.bootCapture id (course config) := by
  refine settles_andThen (settles_call (fun _ => rfl) fun _ => rfl) fun _ => ?_
  refine settles_andThen (settles_call (fun _ => rfl) fun _ => rfl) fun _ => ?_
  refine settles_andThen (capturing_settles config) fun _ => ?_
  refine settles_andThen (asking_settles _ _) fun versionOutput => ?_
  refine settles_andThen (trying_settles config) fun roundTrip => ?_
  refine settles_andThen (saving_settles _ _ _) fun versionLogPath => ?_
  exact settles_andThen (settles_act rfl) fun _ => settles_still _

theorem course_settled {config : Config} {effects : List Effect}
    {result : Except (Stop RunError) Report} (h : course config effects result) :
    Settled config.bootCapture effects result := by
  have hsettled := course_settles config _ _ h
  rcases result with (error | _) | report <;> exact hsettled

end SmokeTest

end BoardSmoke
