import BoardSmoke.Proofs.Playback
import BoardSmoke.Proofs.Recording.Transcript
import BoardSmoke.Proofs.Segments

namespace BoardSmoke

open Session

namespace Effect

-- What a read delivers: as much of what it put into the buffer as it counts.
def delivered : Effect → Bytes
  | .read _ (.ok reading) => reading.placed.take reading.count
  | _ => []

def counted : Effect → Nat
  | .read _ (.ok reading) => reading.count
  | _ => 0

-- A read counts no more than it put there, nor more than it was offered.
def Truthful : Effect → Prop
  | .read room (.ok reading) => reading.count ≤ reading.placed.length ∧ reading.count ≤ room
  | _ => True

-- A read that gives nothing or times out. It ends the reading, with what there is by then.
def endsEarly : Effect → Bool
  | .read _ (.ok reading) => reading.count = 0
  | .read _ (.error fault) => fault.isTimeout
  | _ => false

def isInterrupted : Effect → Bool
  | .read _ (.error fault) => fault.isInterruption
  | _ => false

end Effect

def delivered (effects : List Effect) : Bytes := effects.flatMap Effect.delivered

def counted : List Effect → Nat
  | [] => 0
  | effect :: effects => effect.counted + counted effects

namespace Channel

variable {ω : Type} {buffer bytes placed : Bytes} {reads : List Effect}
  {result : Except (Stop Fault) Bytes}

theorem length_overlay (buffer placed : Bytes) : (overlay buffer placed).length = buffer.length := by
  rw [overlay, List.length_append, List.length_take, List.length_drop]
  omega

theorem take_overlay_of_le {count : Nat} (hplaced : count ≤ placed.length)
    (hroom : count ≤ buffer.length) : (overlay buffer placed).take count = placed.take count := by
  have hfront : count ≤ (placed.take buffer.length).length := by
    rw [List.length_take]
    omega
  rw [overlay, List.take_append_of_le_length hfront, List.take_take, Nat.min_eq_left hroom]

private theorem map_eq_error_iff {ε α β : Type} {outcome : Except ε α} {f : α → β} {error : ε} :
    outcome.map f = .error error ↔ outcome = .error error := by
  cases outcome with
  | ok value => exact iff_of_false nofun nofun
  | error error' => simp [Except.map]

-- The effect is a read with all the room that is left of a total, and there is some.
def Offered (total : Nat) (before : List Effect) (effect : Effect) : Prop :=
  ∃ room outcome, effect = .read room outcome ∧ counted before + room = total ∧ 0 < room

private theorem offered_first (hroom : buffer ≠ []) (outcome : Except Fault Reading) :
    Offered buffer.length [] (.read buffer.length outcome) :=
  ⟨_, outcome, rfl, Nat.zero_add _, List.length_pos_iff.mpr hroom⟩

private theorem offered_only (hroom : buffer ≠ []) {outcome : Except Fault Reading}
    {before later : List Effect} {effect : Effect}
    (hsplit : [.read buffer.length outcome] = before ++ effect :: later) :
    Offered buffer.length before effect := by
  cases before with
  | nil =>
      cases hsplit
      exact offered_first hroom outcome
  | cons first before => simp at hsplit

namespace Filling

theorem offered (h : Filling buffer reads result) {before later : List Effect} {effect : Effect}
    (hsplit : reads = before ++ effect :: later) : Offered buffer.length before effect := by
  induction h generalizing before with
  | full => simp at hsplit
  | nothing hroom _ => exact offered_only hroom hsplit
  | @part buffer reading _ _ hroom _ _ ih =>
      cases before with
      | nil =>
          cases hsplit
          exact offered_first hroom _
      | cons first before =>
          obtain ⟨rfl, hlater⟩ := List.cons.inj hsplit
          obtain ⟨room, outcome, heffect, hcounted, hpos⟩ := ih hlater
          rw [List.length_drop, length_overlay] at hcounted
          refine ⟨room, outcome, heffect, ?_, hpos⟩
          simp only [counted, Effect.counted]
          omega
  | timedOut hroom _ => exact offered_only hroom hsplit
  | interrupted hroom _ _ ih =>
      cases before with
      | nil =>
          cases hsplit
          exact offered_first hroom _
      | cons first before =>
          obtain ⟨rfl, hlater⟩ := List.cons.inj hsplit
          obtain ⟨room, outcome, heffect, hcounted, hpos⟩ := ih hlater
          refine ⟨room, outcome, heffect, ?_, hpos⟩
          simp only [counted, Effect.counted]
          omega
  | failed hroom _ _ => exact offered_only hroom hsplit
  | unfinished _ => simp at hsplit

-- What is given is as long as the reads count, unless they count more than there is room for.
theorem length_eq (h : Filling buffer reads (.ok bytes)) :
    bytes.length = min buffer.length (counted reads) := by
  generalize hresult : (.ok bytes : Except (Stop Fault) Bytes) = result at h
  induction h generalizing bytes with
  | full =>
      cases hresult
      rfl
  | nothing _ hcount =>
      cases hresult
      simp [counted, Effect.counted, hcount]
  | @part buffer reading later rest _ _ _ ih =>
      cases rest with
      | error stop => cases hresult
      | ok rest =>
          cases hresult
          have hrest : rest.length = min (buffer.length - reading.count) (counted later) := by
            rw [ih rfl, List.length_drop, length_overlay]
          have hfront : ((overlay buffer reading.placed).take reading.count).length =
              min reading.count buffer.length := by
            rw [List.length_take, length_overlay]
          rw [List.length_append, hfront, hrest]
          simp only [counted, Effect.counted]
          omega
  | timedOut _ _ =>
      cases hresult
      simp [counted, Effect.counted]
  | interrupted _ _ _ ih =>
      rw [ih hresult]
      simp only [counted, Effect.counted, Nat.zero_add]
  | failed _ _ _ => cases hresult
  | unfinished _ => cases hresult

-- What is given is what the reads delivered, one after the other.
theorem eq_delivered (h : Filling buffer reads (.ok bytes))
    (htruthful : ∀ effect ∈ reads, effect.Truthful) : bytes = delivered reads := by
  generalize hresult : (.ok bytes : Except (Stop Fault) Bytes) = result at h
  induction h generalizing bytes with
  | full =>
      cases hresult
      rfl
  | nothing _ hcount =>
      cases hresult
      simp [delivered, Effect.delivered, hcount]
  | @part buffer reading later rest _ _ _ ih =>
      rw [List.forall_mem_cons] at htruthful
      obtain ⟨⟨hplaced, hroom⟩, hlater⟩ := htruthful
      cases rest with
      | error stop => cases hresult
      | ok rest =>
          cases hresult
          rw [take_overlay_of_le hplaced hroom, ih hlater rfl]
          rfl
  | timedOut _ _ =>
      cases hresult
      rfl
  | interrupted _ _ _ ih =>
      rw [List.forall_mem_cons] at htruthful
      exact ih htruthful.2 hresult
  | failed _ _ _ => cases hresult
  | unfinished _ => cases hresult

-- It is short of the buffer exactly if a read ended the reading early.
theorem short_iff (h : Filling buffer reads (.ok bytes)) :
    bytes.length < buffer.length ↔ ∃ effect ∈ reads, effect.endsEarly = true := by
  generalize hresult : (.ok bytes : Except (Stop Fault) Bytes) = result at h
  induction h generalizing bytes with
  | full =>
      cases hresult
      simp
  | nothing hroom hcount =>
      cases hresult
      simpa [Effect.endsEarly, hcount] using List.length_pos_iff.mpr hroom
  | @part buffer reading later rest hroom hcount _ ih =>
      cases rest with
      | error stop => cases hresult
      | ok rest =>
          cases hresult
          have hrest := ih rfl
          rw [List.length_drop, length_overlay] at hrest
          have hgoesOn : (Effect.read buffer.length (.ok reading)).endsEarly = false := by
            simp [Effect.endsEarly, hcount]
          have hpos := List.length_pos_iff.mpr hroom
          simp only [List.mem_cons, exists_eq_or_imp, hgoesOn, ← hrest, List.length_append,
            List.length_take, length_overlay, Bool.false_eq_true, false_or]
          omega
  | timedOut hroom hfault =>
      cases hresult
      simpa [Effect.endsEarly, hfault] using List.length_pos_iff.mpr hroom
  | interrupted _ hfault _ ih =>
      rw [ih hresult]
      simp [Effect.endsEarly, Fault.not_isTimeout_of_isInterruption hfault]
  | failed _ _ _ => cases hresult
  | unfinished _ => cases hresult

-- A fault fails the reading if it is neither a timeout nor an interruption.
theorem failed_iff (h : Filling buffer reads result) (fault : Fault) :
    result = .error (.failed fault) ↔
      ∃ room, .read room (.error fault) ∈ reads ∧ fault.isTimeout = false ∧
        fault.isInterruption = false := by
  induction h with
  | full => simp
  | nothing _ _ => simp
  | part _ _ _ ih =>
      rw [map_eq_error_iff, ih]
      simp
  | @timedOut _ fault' _ hfault =>
      refine iff_of_false nofun ?_
      rintro ⟨room, hmem, htimeout, _⟩
      cases List.mem_singleton.mp hmem
      simp [hfault] at htimeout
  | @interrupted _ fault' _ _ _ hfault _ ih =>
      rw [ih]
      refine ⟨fun ⟨room, hmem, hrest⟩ => ⟨room, List.mem_cons_of_mem _ hmem, hrest⟩, ?_⟩
      rintro ⟨room, hmem, htimeout, hinterruption⟩
      rcases List.mem_cons.mp hmem with heq | hmem
      · cases heq
        simp [hfault] at hinterruption
      · exact ⟨room, hmem, htimeout, hinterruption⟩
  | @failed _ fault' _ htimeout hinterruption =>
      constructor
      · intro h
        cases h
        exact ⟨_, List.mem_singleton_self _, Bool.eq_false_iff.mpr htimeout,
          Bool.eq_false_iff.mpr hinterruption⟩
      · rintro ⟨room, hmem, _⟩
        cases List.mem_singleton.mp hmem
        rfl
  | unfinished _ => simp

-- Without its interrupted reads, a reading comes to the same.
theorem without_interrupted (h : Filling buffer reads result) :
    Filling buffer (reads.filter fun effect => !effect.isInterrupted) result := by
  induction h with
  | full => exact .full
  | nothing hroom hcount => exact .nothing hroom hcount
  | part hroom hcount _ ih => exact .part hroom hcount ih
  | @timedOut _ fault hroom hfault =>
      have hkept := Fault.not_isInterruption_of_isTimeout hfault
      rw [List.filter_cons_of_pos (by simp [Effect.isInterrupted, hkept])]
      exact .timedOut hroom hfault
  | interrupted _ hfault _ ih =>
      rw [List.filter_cons_of_neg (by simp [Effect.isInterrupted, hfault])]
      exact ih
  | failed hroom htimeout hinterruption =>
      rw [List.filter_cons_of_pos (by simp [Effect.isInterrupted, hinterruption])]
      exact .failed hroom htimeout hinterruption
  | unfinished hroom => exact .unfinished hroom

theorem goesOn_of_unfinished (h : Filling buffer reads (.error .unfinished)) :
    counted reads < buffer.length ∧ ∀ effect ∈ reads, effect.endsEarly = false := by
  generalize hresult : (.error .unfinished : Except (Stop Fault) Bytes) = result at h
  induction h with
  | full => cases hresult
  | nothing _ _ => cases hresult
  | @part buffer reading later rest _ hcount _ ih =>
      obtain ⟨hroom, hlater⟩ := ih (map_eq_error_iff.mp hresult.symm).symm
      rw [List.length_drop, length_overlay] at hroom
      refine ⟨?_, List.forall_mem_cons.mpr ⟨by simp [Effect.endsEarly, hcount], hlater⟩⟩
      simp only [counted, Effect.counted]
      omega
  | timedOut _ _ => cases hresult
  | interrupted _ hfault _ ih =>
      obtain ⟨hroom, hlater⟩ := ih hresult
      refine ⟨?_, List.forall_mem_cons.mpr ⟨Fault.not_isTimeout_of_isInterruption hfault, hlater⟩⟩
      simpa only [counted, Effect.counted, Nat.zero_add] using hroom
  | failed _ _ _ => cases hresult
  | unfinished hroom =>
      exact ⟨List.length_pos_iff.mpr hroom, List.forall_mem_nil _⟩

end Filling

-- A reading that does not finish made a read in each of its rounds.
theorem fill_length_of_unfinished (channel : Channel ω) {rounds : Nat} {world : ω × List Effect}
    (h : ((channel.recorded.fill rounds buffer).runIn world).1 = .error .unfinished) :
    ((channel.recorded.fill rounds buffer).runIn world).2.2.length = world.2.length + rounds := by
  induction rounds generalizing buffer world with
  | zero => cases buffer <;> rfl
  | succ rounds ih =>
      by_cases hroom : buffer = []
      · rw [hroom, fill_nil] at h
        cases h
      have hread : (channel.recorded.read buffer.length world).2.2.length = world.2.length + 1 :=
        List.length_append
      rw [runIn_fill_succ _ _ hroom] at h ⊢
      rcases hcase : channel.recorded.read buffer.length world with ⟨fault | reading, middle⟩
      case error =>
        rw [hcase] at hread
        simp only [hcase] at h ⊢
        split at h
        · cases h
        split at h
        · next htimeout hinterruption =>
            rw [if_neg htimeout, if_pos hinterruption, ih h, hread]
            omega
        · cases h
      case ok =>
        rw [hcase] at hread
        simp only [hcase] at h ⊢
        split at h
        · cases h
        · next hcount =>
            rw [if_neg hcount, ih (map_eq_error_iff.mp h), hread]
            omega

-- The check comes first.
theorem readAvailable_length_of_unfinished (channel : Channel ω) {world : ω × List Effect}
    (h : (channel.recorded.readAvailable.runIn world).1 = .error .unfinished) :
    (channel.recorded.readAvailable.runIn world).2.2.length =
      world.2.length + 1 + channel.patience := by
  have hpast : (channel.recorded.available world).2.2.length = world.2.length + 1 :=
    List.length_append
  rw [readAvailable, runIn_bind, runIn_call] at h ⊢
  rcases hcheck : channel.recorded.available world with ⟨fault | pending, checked⟩
  case error =>
    rw [hcheck] at h
    cases h
  case ok =>
    rw [hcheck] at h hpast
    rw [← hpast]
    exact fill_length_of_unfinished channel h

-- What becomes of reading the bytes that are pending, in at most so many reads.
structure Delivery (pending patience : Nat) (reads : List Effect)
    (result : Except (Stop Fault) Bytes) : Prop where
  -- There are only reads, and each is offered all that is left of what is pending.
  offered : ∀ before effect later, reads = before ++ effect :: later →
    Offered pending before effect
  -- What is given was delivered, in this order.
  delivered : ∀ bytes, result = .ok bytes → (∀ effect ∈ reads, effect.Truthful) →
    bytes = delivered reads
  -- It is never longer than what is pending, whatever the reads claim.
  length : ∀ bytes, result = .ok bytes → bytes.length = min pending (counted reads)
  short : ∀ bytes, result = .ok bytes →
    (bytes.length < pending ↔ ∃ effect ∈ reads, effect.endsEarly = true)
  failed : ∀ fault, result = .error (.failed fault) ↔
    ∃ room, .read room (.error fault) ∈ reads ∧ fault.isTimeout = false ∧
      fault.isInterruption = false
  -- Interrupted reads change nothing.
  uninterrupted : Filling (List.replicate pending 0)
    (reads.filter fun effect => !effect.isInterrupted) result
  -- It is given up only if every read went on to the next one.
  unfinished : result = .error .unfinished → reads.length = patience ∧ counted reads < pending ∧
    ∀ effect ∈ reads, effect.endsEarly = false

theorem Filling.delivery {pending patience : Nat}
    (h : Filling (List.replicate pending 0) reads result)
    (hlength : result = .error .unfinished → reads.length = patience) :
    Delivery pending patience reads result where
  offered before effect later hsplit := by
    have hoffered := h.offered hsplit
    rwa [List.length_replicate] at hoffered
  delivered bytes hresult htruthful := by
    subst hresult
    exact h.eq_delivered htruthful
  length bytes hresult := by
    subst hresult
    rw [h.length_eq, List.length_replicate]
  short bytes hresult := by
    subst hresult
    have hshort := h.short_iff
    rwa [List.length_replicate] at hshort
  failed := h.failed_iff
  uninterrupted := h.without_interrupted
  unfinished hresult := by
    refine ⟨hlength hresult, ?_⟩
    subst hresult
    have hgoesOn := h.goesOn_of_unfinished
    rwa [List.length_replicate] at hgoesOn

-- Whatever the check and the reads come to: a failed check fails the reading, and otherwise the reads
-- deliver what is given.
theorem readAvailable_delivers (channel : Channel ω) (world : ω) :
    ∃ effects, channel.recorded.readAvailable.runIn (world, []) =
        ((channel.readAvailable.runIn world).1, (channel.readAvailable.runIn world).2, effects) ∧
      ((∃ fault, effects = [.available (.error fault)] ∧
          (channel.readAvailable.runIn world).1 = .error (.failed fault)) ∨
        ∃ pending reads, effects = .available (.ok pending) :: reads ∧
          Delivery pending channel.patience reads (channel.readAvailable.runIn world).1) := by
  obtain ⟨effects, hrun, hreading⟩ := readAvailable_records channel world []
  refine ⟨effects, hrun, ?_⟩
  rcases Course.call_andThen_iff.mp hreading with hfailed | ⟨pending, reads, rfl, hfilling⟩
  · exact .inl hfailed
  refine .inr ⟨pending, reads, rfl, hfilling.delivery fun hunfinished => ?_⟩
  have hlength := readAvailable_length_of_unfinished channel
    ((congrArg Prod.fst hrun).trans hunfinished)
  rw [hrun] at hlength
  simp only [List.nil_append, List.length_cons, List.length_nil] at hlength
  omega

-- A channel may claim to have read more than there is room for.
example : ((Playback.bench 4).readAvailable.runIn ⟨0, [.ok 3], [.ok ⟨[0x6E], 9⟩]⟩).1 =
    .ok [0x6E, 0, 0] := rfl

end Channel

end BoardSmoke
