import BoardSmoke.Proofs.Channel.Delivery
import BoardSmoke.Proofs.Console
import BoardSmoke.Proofs.Recording.Failure

namespace BoardSmoke

open Session

namespace Course

variable {ε α β : Type} {least : Nat}

-- Only after so many effects is it given up.
def Lasts (least : Nat) : Course ε α := fun effects result =>
  result = .error .unfinished → least ≤ effects.length

theorem lasts_andThen {effects : List Effect} {result : Except (Stop ε) β}
    (h : (Lasts least : Course ε α).andThen (fun _ => Lasts least) effects result) :
    Lasts least effects result := by
  rintro rfl
  rcases h with ⟨stop, hfirst, hstop⟩ | ⟨a, before, later, _, hlater, rfl⟩
  · cases hstop
    exact hfirst rfl
  · rw [List.length_append]
    exact Nat.le_trans (hlater rfl) (Nat.le_add_left _ _)

end Course

open Course

section Lasting

variable {ω ε α β : Type} {least : Nat} {recorded : Session (ω × List Effect) ε α}
  {plain : Session ω ε α}

theorem Session.Records.lasts_bind {recordedNext : α → Session (ω × List Effect) ε β}
    {plainNext : α → Session ω ε β} (h : Records recorded plain (Lasts least))
    (hnext : ∀ a, Records (recordedNext a) (plainNext a) (Lasts least)) :
    Records (recorded >>= recordedNext) (plain >>= plainNext) (Lasts least) :=
  (records_bind h hnext).mono fun _ _ => lasts_andThen

theorem Session.Records.and {course course' : Course ε α} (h : Records recorded plain course)
    (h' : Records recorded plain course') :
    Records recorded plain fun effects result => course effects result ∧ course' effects result := by
  intro world past
  obtain ⟨effects, hrun, hcourse⟩ := h world past
  obtain ⟨effects', hrun', hcourse'⟩ := h' world past
  obtain rfl : effects = effects' := by simpa using hrun.symm.trans hrun'
  exact ⟨effects, hrun, hcourse, hcourse'⟩

theorem Session.Records.lasts_of_finishes {course : Course ε α} (h : Records recorded plain course)
    (hfinishes : ∀ effects, ¬course effects (.error .unfinished)) :
    Records recorded plain (Lasts least) :=
  h.mono fun effects _ hcourse hresult => absurd (hresult ▸ hcourse) (hfinishes effects)

theorem Channel.readAvailable_lasts (channel : Channel ω) (hleast : least ≤ channel.patience) :
    Records channel.recorded.readAvailable channel.readAvailable (Lasts least) := by
  intro world past
  obtain ⟨effects, hrun, _⟩ := readAvailable_records channel world past
  refine ⟨effects, hrun, fun hunfinished => ?_⟩
  have hlength : (past ++ effects).length = past.length + 1 + channel.patience := by
    have hrounds := readAvailable_length_of_unfinished channel
      ((congrArg Prod.fst hrun).trans hunfinished)
    rwa [hrun] at hrounds
  rw [List.length_append] at hlength
  omega

end Lasting

namespace Console

variable {ω : Type}

theorem collect_lasts (channel : Channel ω) (deadline : Nat) {rounds : Nat}
    (hrounds : rounds ≤ channel.patience) :
    Records (collect channel.recorded deadline rounds) (collect channel deadline rounds)
      (Lasts rounds) := by
  induction rounds with
  | zero => exact (collect_records channel deadline 0).mono fun _ _ _ _ => Nat.zero_le _
  | succ rounds ih =>
      have hlater := ih (Nat.le_of_succ_le hrounds)
      refine (records_bind (records_query _ _) fun time =>
        (?_ : Records _ _ (Lasts rounds))).mono ?_
      · by_cases htime : time < deadline
        · simp only [htime, if_true]
          refine ((records_call _ _).lasts_of_finishes ?_).lasts_bind fun pending => ?_
          · rintro _ ⟨outcome, _, hstop⟩
            cases outcome <;> cases hstop
          by_cases hpending : 0 < pending
          · simp only [hpending, if_true]
            refine (channel.readAvailable_lasts (Nat.le_of_succ_le hrounds)).lasts_bind
              fun bytes => records_note _ _ (hlater.lasts_bind fun rest => ?_)
            exact (records_pure _).lasts_of_finishes fun _ ⟨_, hstop⟩ => nomatch hstop
          · simp only [hpending, if_false]
            refine Records.lasts_bind ?_ fun _ => hlater
            exact (records_act _ _).lasts_of_finishes fun _ ⟨_, hstop⟩ => nomatch hstop
        · simp only [htime, if_false]
          exact (records_pure _).lasts_of_finishes fun _ ⟨_, hstop⟩ => nomatch hstop
      · intro effects result hcourse hunfinished
        obtain ⟨time, later, rfl, hrest⟩ := query_andThen_iff.mp hcourse
        exact Nat.succ_le_succ (hrest hunfinished)

-- A round of the polls. It begins before the deadline, checks what is there, and then either sleeps or
-- reads.
inductive Round (deadline : Nat) : List Effect → Prop
  | silent {time : Nat} (htime : time < deadline) :
      Round deadline [.now time, .available (.ok 0), .sleep pollInterval]
  | received {time pending : Nat} {reads : List Effect} {bytes : Bytes} (htime : time < deadline)
      (hpending : 0 < pending) (hreads : Channel.reading reads (.ok bytes)) :
      Round deadline (.now time :: .available (.ok pending) :: reads)

theorem Draining.rounds {deadline : Nat} {effects : List Effect} {text : String}
    (h : Draining deadline effects (.ok text)) :
    ∃ (rounds : List (List Effect)) (time : Nat), (∀ round ∈ rounds, Round deadline round) ∧
      effects = rounds.flatten ++ [.now time] ∧ deadline ≤ time := by
  generalize hresult : (.ok text : Except (Stop Fault) String) = result at h
  induction h generalizing text with
  | @elapsed time htime => exact ⟨[], time, List.forall_mem_nil _, rfl, htime⟩
  | silent htime _ ih =>
      obtain ⟨rounds, last, hrounds, rfl, hlast⟩ := ih hresult
      exact ⟨_ :: rounds, last, List.forall_mem_cons.mpr ⟨.silent htime, hrounds⟩, rfl, hlast⟩
  | @received _ _ _ _ _ rest htime hpending hreads _ ih =>
      cases rest with
      | error stop => cases hresult
      | ok rest =>
          obtain ⟨rounds, last, hrounds, rfl, hlast⟩ := ih rfl
          refine ⟨_ :: rounds, last,
            List.forall_mem_cons.mpr ⟨.received htime hpending hreads, hrounds⟩, ?_, hlast⟩
          simp
  | checkFailed _ => cases hresult
  | readStopped _ _ _ => cases hresult
  | unfinished _ => cases hresult

-- The last effect failed with this fault, and none did before.
def FailsWith (fault : Fault) (effects : List Effect) : Prop :=
  ∃ before last, effects = before ++ [last] ∧ Calm before ∧
    last.failure? = some (.channelFailed fault)

theorem FailsWith.append {fault : Fault} {before later : List Effect} (h : FailsWith fault later)
    (hbefore : Calm before) : FailsWith fault (before ++ later) := by
  obtain ⟨calm, last, rfl, hcalm, hlast⟩ := h
  exact ⟨before ++ calm, last, (List.append_assoc _ _ _).symm, hbefore.append hcalm, hlast⟩

theorem failsWith_of_reading {fault : Fault} {reads : List Effect}
    (h : Channel.reading reads (.error (.failed fault))) : FailsWith fault reads := by
  obtain ⟨before, last, hsplit, hcalm, hlast | ⟨time, rfl, -⟩⟩ :=
    (Channel.reading_settles : Settles Duration.zero _ _) _ _ h
  · exact ⟨before, last, hsplit, hcalm, hlast⟩
  -- the clock is not looked at while reading
  have hmem : .now time ∈ reads := hsplit ▸ List.mem_append_right _ (List.mem_singleton_self _)
  rcases call_andThen_iff.mp h with ⟨_, rfl, _⟩ | ⟨pending, later, rfl, hfilling⟩
  · cases List.mem_singleton.mp hmem
  · rcases List.mem_cons.mp hmem with heq | hlater
    · cases heq
    · obtain ⟨_, _, heq⟩ := hfilling.isRead _ hlater
      cases heq

theorem Draining.failsWith {deadline : Nat} {effects : List Effect} {fault : Fault}
    (h : Draining deadline effects (.error (.failed fault))) : FailsWith fault effects := by
  generalize hresult : (.error (.failed fault) : Except (Stop Fault) String) = result at h
  induction h with
  | elapsed _ => cases hresult
  | silent _ _ ih =>
      exact (ih hresult).append (calm_cons_iff.mpr ⟨rfl, calm_cons_iff.mpr
        ⟨rfl, calm_cons_iff.mpr ⟨rfl, calm_nil⟩⟩⟩)
  | @received time pending reads later _ rest _ _ hreads _ ih =>
      cases rest with
      | ok rest => cases hresult
      | error stop =>
          have hcalm := (Channel.reading_settles : Settles Duration.zero _ _) _ _ hreads
          cases hresult
          exact (ih rfl).append (calm_cons_iff.mpr ⟨rfl, calm_cons_iff.mpr ⟨rfl, hcalm⟩⟩)
  | checkFailed _ =>
      cases hresult
      exact ⟨[_], _, rfl, calm_cons_iff.mpr ⟨rfl, calm_nil⟩, rfl⟩
  | readStopped _ _ hreads =>
      cases hresult
      exact (failsWith_of_reading hreads).append
        (calm_cons_iff.mpr ⟨rfl, calm_cons_iff.mpr ⟨rfl, calm_nil⟩⟩)
  | unfinished _ => cases hresult

-- What a drain comes to that starts at this time, with the effects after the first look at the clock.
structure Covers (start : Nat) (window : Duration) (patience : Nat) (effects : List Effect)
    (result : Except (Stop Fault) String) : Prop where
  receiving : ∀ effect ∈ effects, effect.isReceiving = true
  -- It ends well once a look at the clock shows that the window is over.
  ok : ∀ text, result = .ok text →
    ∃ (rounds : List (List Effect)) (time : Nat),
      (∀ round ∈ rounds, Round (start + window.nanoseconds) round) ∧
      effects = rounds.flatten ++ [.now time] ∧ start + window.nanoseconds ≤ time
  -- A window is too long if the clock does not reach its end. Then nothing is done.
  tooLong : Clock.limit ≤ start + window.nanoseconds →
    effects = [] ∧ result = .error (.failed (windowTooLong window)) ∧
      (windowTooLong window).kind = .invalidInput
  -- It fails right after an operation that failed, and with the fault of that.
  failed : ∀ fault, result = .error (.failed fault) → start + window.nanoseconds < Clock.limit →
    FailsWith fault effects
  unfinished : result = .error .unfinished → patience ≤ effects.length

theorem covers_of_tooLong {start patience : Nat} {window : Duration}
    (h : Clock.limit ≤ start + window.nanoseconds) :
    Covers start window patience [] (.error (.failed (windowTooLong window))) where
  receiving := List.forall_mem_nil _
  ok _ hresult := nomatch hresult
  tooLong _ := ⟨rfl, rfl, rfl⟩
  failed _ _ hreached := absurd hreached (Nat.not_lt.mpr h)
  unfinished hresult := nomatch hresult

theorem Draining.covers {start patience : Nat} {window : Duration} {effects : List Effect}
    {result : Except (Stop Fault) String}
    (h : Draining (start + window.nanoseconds) effects result)
    (hreached : start + window.nanoseconds < Clock.limit)
    (hlasts : Lasts patience effects result) : Covers start window patience effects result where
  receiving := by
    have hdraining : draining window (.now start :: effects) result := by
      refine query_andThen_iff.mpr ⟨start, effects, rfl, ?_⟩
      simpa only [Clock.deadline?_of_lt hreached] using h
    exact (List.forall_mem_cons.mp (draining_only (fun _ => id) window _ _ hdraining)).2
  ok text hresult := by
    subst hresult
    exact h.rounds
  tooLong hlimit := absurd hreached (Nat.not_lt.mpr hlimit)
  failed fault hresult _ := by
    subst hresult
    exact h.failsWith
  unfinished := hlasts

theorem drain_records_covers (channel : Channel ω) (window : Duration) :
    Records (drain channel.recorded window) (drain channel window)
      ((Course.query .now).andThen fun start => Covers start window channel.patience) := by
  refine records_bind (records_query _ _) fun start => ?_
  by_cases hreached : start + window.nanoseconds < Clock.limit
  · simp only [Clock.deadline?_of_lt hreached]
    have hcollect := collect_records channel (start + window.nanoseconds) channel.patience
    have hlasts := collect_lasts channel (start + window.nanoseconds) (Nat.le_refl _)
    exact (hcollect.and hlasts).mono fun _ _ ⟨h, hlasts⟩ => h.covers hreached hlasts
  · simp only [Clock.deadline?, if_neg hreached]
    exact (records_fail _).mono fun _ _ ⟨he, hr⟩ =>
      he ▸ hr ▸ covers_of_tooLong (Nat.le_of_not_lt hreached)

end Console

end BoardSmoke
