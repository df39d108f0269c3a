import BoardSmoke.Proofs.Console
import BoardSmoke.Proofs.Recording.Basic

namespace BoardSmoke

open Session

def Effect.isReceiving : Effect → Bool
  | .available _ | .read .. | .now _ | .sleep _ => true
  | _ => false

namespace Channel

variable {ω ε α : Type}

-- How the rest of a buffer is filled, one read after the other. Every read is offered all the room
-- that is left. A read that yields nothing, times out or fails is the last one.
inductive Filling : Bytes → List Effect → Except (Stop Fault) Bytes → Prop
  | full : Filling [] [] (.ok [])
  | nothing {buffer : Bytes} {reading : Reading} (hroom : buffer ≠ []) (hcount : reading.count = 0) :
      Filling buffer [.read buffer.length (.ok reading)] (.ok [])
  | part {buffer : Bytes} {reading : Reading} {later : List Effect}
      {rest : Except (Stop Fault) Bytes} (hroom : buffer ≠ []) (hcount : reading.count ≠ 0)
      (hlater : Filling ((overlay buffer reading.placed).drop reading.count) later rest) :
      Filling buffer (.read buffer.length (.ok reading) :: later)
        (rest.map ((overlay buffer reading.placed).take reading.count ++ ·))
  | timedOut {buffer : Bytes} {fault : Fault} (hroom : buffer ≠ []) (hfault : fault.isTimeout) :
      Filling buffer [.read buffer.length (.error fault)] (.ok [])
  | interrupted {buffer : Bytes} {fault : Fault} {later : List Effect}
      {result : Except (Stop Fault) Bytes} (hroom : buffer ≠ []) (hfault : fault.isInterruption)
      (hlater : Filling buffer later result) :
      Filling buffer (.read buffer.length (.error fault) :: later) result
  | failed {buffer : Bytes} {fault : Fault} (hroom : buffer ≠ []) (htimeout : ¬fault.isTimeout)
      (hinterruption : ¬fault.isInterruption) :
      Filling buffer [.read buffer.length (.error fault)] (.error (.failed fault))
  | unfinished {buffer : Bytes} (hroom : buffer ≠ []) : Filling buffer [] (.error .unfinished)

-- One check of what is buffered, and the reads of it.
def reading : Course Fault Bytes :=
  (Course.call .available).andThen fun pending => Filling (List.replicate pending 0)

theorem filling_only {p : Effect → Prop} (h : ∀ room outcome, p (.read room outcome))
    (buffer : Bytes) : Course.Only p (Filling buffer) := by
  intro effects result hfilling
  induction hfilling with
  | full => exact List.forall_mem_nil p
  | nothing _ _ => exact List.forall_mem_singleton.mpr (h _ _)
  | part _ _ _ ih => exact List.forall_mem_cons.mpr ⟨h _ _, ih⟩
  | timedOut _ _ => exact List.forall_mem_singleton.mpr (h _ _)
  | interrupted _ _ _ ih => exact List.forall_mem_cons.mpr ⟨h _ _, ih⟩
  | failed _ _ _ => exact List.forall_mem_singleton.mpr (h _ _)
  | unfinished _ => exact List.forall_mem_nil p

theorem fill_records (channel : Channel ω) (rounds : Nat) (buffer : Bytes) :
    Records (channel.recorded.fill rounds buffer) (channel.fill rounds buffer)
      (Filling buffer) := by
  induction rounds generalizing buffer with
  | zero =>
      cases buffer with
      | nil => exact (records_pure []).mono fun _ _ ⟨he, hr⟩ => he ▸ hr ▸ .full
      | cons byte rest =>
          exact records_unfinished.mono fun _ _ ⟨he, hr⟩ => he ▸ hr ▸ .unfinished (by simp)
  | succ rounds ih =>
      cases buffer with
      | nil => exact (records_pure []).mono fun _ _ ⟨he, hr⟩ => he ▸ hr ▸ .full
      | cons byte rest =>
          refine (records_bind (records_attempt _ _) fun outcome =>
            (?_ : Records _ _ fun effects result =>
              Filling (byte :: rest) (.read (byte :: rest).length outcome :: effects) result)).mono ?_
          · cases outcome with
            | ok reading =>
                by_cases hcount : reading.count = 0
                · simp only [hcount, if_true]
                  exact (records_pure []).mono fun _ _ ⟨he, hr⟩ =>
                    he ▸ hr ▸ .nothing (by simp) hcount
                · simp only [hcount, if_false]
                  refine (records_bind (ih _) fun _ => records_pure _).mono fun effects result h => ?_
                  obtain ⟨rest, hlater, rfl⟩ := Course.andThen_still_iff.mp h
                  exact .part (by simp) hcount hlater
            | error fault =>
                by_cases htimeout : fault.isTimeout
                · simp only [htimeout, if_true]
                  exact (records_pure []).mono fun _ _ ⟨he, hr⟩ =>
                    he ▸ hr ▸ .timedOut (by simp) htimeout
                by_cases hinterruption : fault.isInterruption
                · simp only [htimeout, hinterruption, if_true]
                  exact (ih _).mono fun _ _ hlater => .interrupted (by simp) hinterruption hlater
                · simp only [htimeout, hinterruption]
                  exact (records_fail fault).mono fun _ _ ⟨he, hr⟩ =>
                    he ▸ hr ▸ .failed (by simp) htimeout hinterruption
          · intro effects result h
            obtain ⟨outcome, later, rfl, hlater⟩ := Course.query_andThen_iff.mp h
            exact hlater

theorem reading_only {p : Effect → Prop} (h : ∀ effect, effect.isReceiving = true → p effect) :
    Course.Only p reading :=
  Course.only_andThen (Course.only_call fun _ => h _ rfl) fun _ =>
    filling_only (fun _ _ => h _ rfl) _

theorem readAvailable_records (channel : Channel ω) :
    Records channel.recorded.readAvailable channel.readAvailable reading :=
  records_bind (records_call _ _) fun _ => fill_records channel _ _

end Channel

namespace Console

variable {ω : Type}

-- How a channel is drained, one poll after the other. The first poll at or after the deadline is
-- the last one, unless one fails before.
inductive Draining (deadline : Nat) : List Effect → Except (Stop Fault) String → Prop
  | elapsed {time : Nat} (htime : deadline ≤ time) : Draining deadline [.now time] (.ok "")
  | silent {time : Nat} {later : List Effect} {rest : Except (Stop Fault) String}
      (htime : time < deadline) (hlater : Draining deadline later rest) :
      Draining deadline (.now time :: .available (.ok 0) :: .sleep pollInterval :: later) rest
  | received {time pending : Nat} {reads later : List Effect} {bytes : Bytes}
      {rest : Except (Stop Fault) String} (htime : time < deadline) (hpending : 0 < pending)
      (hreads : Channel.reading reads (.ok bytes)) (hlater : Draining deadline later rest) :
      Draining deadline (.now time :: .available (.ok pending) :: reads ++ later)
        (rest.map (Utf8.text bytes ++ ·))
  | checkFailed {time : Nat} {fault : Fault} (htime : time < deadline) :
      Draining deadline [.now time, .available (.error fault)] (.error (.failed fault))
  | readStopped {time pending : Nat} {reads : List Effect} {stop : Stop Fault}
      (htime : time < deadline) (hpending : 0 < pending)
      (hreads : Channel.reading reads (.error stop)) :
      Draining deadline (.now time :: .available (.ok pending) :: reads) (.error stop)
  | unfinished {time : Nat} (htime : time < deadline) :
      Draining deadline [.now time] (.error .unfinished)

-- The clock is read once for the deadline, which may not be there.
def draining (window : Duration) : Course Fault String :=
  (Course.query .now).andThen fun start =>
    match Clock.deadline? start window with
    | none => .still (.error (.failed (windowTooLong window)))
    | some deadline => Draining deadline

theorem draining_only {p : Effect → Prop} (h : ∀ effect, effect.isReceiving = true → p effect)
    (window : Duration) : Course.Only p (draining window) := by
  refine Course.only_andThen (Course.only_query fun _ => h _ rfl) fun start => ?_
  cases Clock.deadline? start window with
  | none => exact Course.only_still _
  | some deadline =>
      intro effects result hdraining
      induction hdraining with
      | elapsed _ => exact List.forall_mem_singleton.mpr (h _ rfl)
      | silent _ _ ih =>
          simp only [List.forall_mem_cons]
          exact ⟨h _ rfl, h _ rfl, h _ rfl, ih⟩
      | received _ _ hreads _ ih =>
          simp only [List.cons_append, List.forall_mem_cons, List.forall_mem_append]
          exact ⟨h _ rfl, h _ rfl, Channel.reading_only h _ _ hreads, ih⟩
      | checkFailed _ =>
          simp only [List.forall_mem_cons]
          exact ⟨h _ rfl, h _ rfl, List.forall_mem_nil p⟩
      | readStopped _ _ hreads =>
          simp only [List.forall_mem_cons]
          exact ⟨h _ rfl, h _ rfl, Channel.reading_only h _ _ hreads⟩
      | unfinished _ => exact List.forall_mem_singleton.mpr (h _ rfl)

-- A command, the time for it to settle, and one read.
def exchange (command : String) (settle : Duration) : Course Fault String :=
  (Course.call (.write (Utf8.bytes (command ++ "\n")))).andThen fun _ =>
    (Course.act (.sleep settle)).andThen fun _ =>
      Channel.reading.andThen fun bytes => .still (.ok (Utf8.text bytes))

-- Every poll starts with a look at the clock.
private theorem clocked_records (channel : Channel ω) {deadline : Nat}
    {recordedPoll : Session (ω × List Effect) Fault String} {plainPoll : Session ω Fault String}
    (hpoll : ∀ time < deadline, Records recordedPoll plainPoll fun effects result =>
      Draining deadline (.now time :: effects) result) :
    Records
      (query channel.recorded.now >>= fun time => if time < deadline then recordedPoll else pure "")
      (query channel.now >>= fun time => if time < deadline then plainPoll else pure "")
      (Draining deadline) := by
  refine (records_bind (records_query _ _) fun time =>
    (?_ : Records _ _ fun effects result => Draining deadline (.now time :: effects) result)).mono ?_
  · by_cases htime : time < deadline
    · simpa only [htime, if_true] using hpoll time htime
    · simp only [htime, if_false]
      exact (records_pure _).mono fun _ _ ⟨he, hr⟩ =>
        he ▸ hr ▸ .elapsed (Nat.le_of_not_lt htime)
  · intro effects result h
    obtain ⟨time, later, rfl, hlater⟩ := Course.query_andThen_iff.mp h
    exact hlater

theorem collect_records (channel : Channel ω) (deadline rounds : Nat) :
    Records (collect channel.recorded deadline rounds) (collect channel deadline rounds)
      (Draining deadline) := by
  induction rounds with
  | zero =>
      refine clocked_records channel fun time htime => ?_
      exact records_unfinished.mono fun _ _ ⟨he, hr⟩ => he ▸ hr ▸ .unfinished htime
  | succ rounds ih =>
      refine clocked_records channel fun time htime => ?_
      refine (records_bind (records_call _ _) fun pending =>
        (?_ : Records _ _ fun effects result =>
          Draining deadline (.now time :: .available (.ok pending) :: effects) result)).mono ?_
      · by_cases hpending : 0 < pending
        · simp only [hpending, if_true]
          refine (records_bind (Channel.readAvailable_records channel) fun bytes =>
            records_note _ _ (records_bind ih fun rest => records_pure _)).mono ?_
          rintro _ _ (⟨stop, hreads, rfl⟩ | ⟨bytes, reads, later, hreads, hlater, rfl⟩)
          · exact .readStopped htime hpending hreads
          · obtain ⟨rest, hrest, rfl⟩ := Course.andThen_still_iff.mp hlater
            exact .received htime hpending hreads hrest
        · simp only [hpending, if_false]
          obtain rfl : pending = 0 := by omega
          refine (records_bind (records_act _ _) fun _ => ih).mono fun effects result h => ?_
          obtain ⟨later, rfl, hlater⟩ := Course.act_andThen_iff.mp h
          exact .silent htime hlater
      · intro effects result h
        rcases Course.call_andThen_iff.mp h with ⟨fault, rfl, rfl⟩ | ⟨pending, later, rfl, hlater⟩
        · exact .checkFailed htime
        · exact hlater

theorem drain_records (channel : Channel ω) (window : Duration) :
    Records (drain channel.recorded window) (drain channel window) (draining window) := by
  refine records_bind (records_query _ _) fun start => ?_
  cases Clock.deadline? start window with
  | none => exact records_fail _
  | some deadline => exact collect_records channel deadline _

theorem send_records (channel : Channel ω) (command : String) (settle : Duration) :
    Records (send channel.recorded command settle) (send channel command settle)
      (exchange command settle) := by
  rw [exchange, ← commandLine_eq]
  refine records_note _ _ (records_bind (records_call _ _) fun _ => ?_)
  refine records_bind (records_act _ _) fun _ => ?_
  exact records_bind (Channel.readAvailable_records channel) fun bytes =>
    records_note _ _ (records_pure _)

end Console

end BoardSmoke
