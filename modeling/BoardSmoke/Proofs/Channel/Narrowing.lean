import BoardSmoke.Proofs.Channel.Delivery

namespace BoardSmoke

open Session

def interruptions (effects : List Effect) : Nat := effects.countP Effect.isInterrupted

namespace Channel

-- Reads of a buffer that has so much room, and the room that a read after them is offered. It is none if
-- there is no such read, as the buffer is full or the reading over.
inductive Narrowing : Nat → List Effect → Nat → Prop
  | start (room : Nat) : Narrowing room [] room
  -- An interrupted read is made again.
  | interrupted {room next : Nat} {fault : Fault} {later : List Effect} (hroom : 0 < room)
      (hfault : fault.isInterruption = true) (hlater : Narrowing room later next) :
      Narrowing room (.read room (.error fault) :: later) next
  -- Any other read ends the reading,
  | last {room : Nat} {outcome : Except Fault Reading} (hroom : 0 < room)
      (hother : (Effect.read room outcome).isInterrupted = false) :
      Narrowing room [.read room outcome] 0
  -- or fills some of the room and leaves the rest to the next one.
  | narrower {room next : Nat} {reading : Reading} {later : List Effect} (hroom : 0 < room)
      (hcount : 0 < reading.count) (hlater : Narrowing (room - reading.count) later next) :
      Narrowing room (.read room (.ok reading) :: later) next

namespace Narrowing

variable {room next : Nat} {reads : List Effect}

theorem length_le (h : Narrowing room reads next) :
    reads.length + next ≤ room + interruptions reads := by
  induction h with
  | start room =>
      rw [List.length_nil]
      omega
  | @interrupted room next fault later _ hfault _ ih =>
      have hcount : interruptions (.read room (.error fault) :: later) = interruptions later + 1 :=
        List.countP_cons_of_pos hfault
      rw [List.length_cons, hcount]
      omega
  | last hroom _ =>
      rw [List.length_singleton]
      omega
  | @narrower room next reading later _ _ _ ih =>
      have hcount : interruptions (.read room (.ok reading) :: later) = interruptions later :=
        List.countP_cons_of_neg Bool.false_ne_true
      rw [List.length_cons, hcount]
      omega

theorem eq_nil (h : Narrowing 0 reads next) : reads = [] := by
  cases h with
  | start => rfl
  | interrupted hroom _ _ => exact absurd hroom (Nat.lt_irrefl 0)
  | last hroom _ => exact absurd hroom (Nat.lt_irrefl 0)
  | narrower hroom _ _ => exact absurd hroom (Nat.lt_irrefl 0)

end Narrowing

theorem Filling.narrowing {buffer : Bytes} {reads : List Effect} {result : Except (Stop Fault) Bytes}
    (h : Filling buffer reads result) :
    ∃ next, Narrowing buffer.length reads next ∧ (next = 0 ↔ result ≠ .error .unfinished) := by
  induction h with
  | full => exact ⟨0, .start 0, iff_of_true rfl nofun⟩
  | nothing hroom _ =>
      exact ⟨0, .last (List.length_pos_iff.mpr hroom) rfl, iff_of_true rfl nofun⟩
  | @part buffer reading later rest hroom hcount _ ih =>
      obtain ⟨next, hlater, hends⟩ := ih
      rw [List.length_drop, length_overlay] at hlater
      refine ⟨next, .narrower (List.length_pos_iff.mpr hroom) (Nat.pos_of_ne_zero hcount) hlater,
        hends.trans ?_⟩
      cases rest with
      | ok bytes => exact iff_of_true nofun nofun
      | error stop => exact Iff.rfl
  | timedOut hroom hfault =>
      have hother := Fault.not_isInterruption_of_isTimeout hfault
      exact ⟨0, .last (List.length_pos_iff.mpr hroom) hother, iff_of_true rfl nofun⟩
  | interrupted hroom hfault _ ih =>
      obtain ⟨next, hlater, hends⟩ := ih
      exact ⟨next, .interrupted (List.length_pos_iff.mpr hroom) hfault hlater, hends⟩
  | failed hroom _ hinterruption =>
      exact ⟨0, .last (List.length_pos_iff.mpr hroom) (Bool.eq_false_iff.mpr hinterruption),
        iff_of_true rfl nofun⟩
  | unfinished hroom =>
      exact ⟨_, .start _, iff_of_false (Nat.ne_of_gt (List.length_pos_iff.mpr hroom)) (· rfl)⟩

section Enough

variable {ω : Type} (channel : Channel ω) {world checked : ω}

theorem runIn_readAvailable_of_error {fault : Fault}
    (hcheck : channel.available world = (.error fault, checked)) :
    channel.readAvailable.runIn world = (.error (.failed fault), checked) := by
  rw [readAvailable, runIn_bind, runIn_call, hcheck]
  rfl

theorem runIn_readAvailable_of_ok {pending : Nat}
    (hcheck : channel.available world = (.ok pending, checked)) :
    channel.readAvailable.runIn world =
      (channel.fill channel.patience (List.replicate pending 0)).runIn checked := by
  rw [readAvailable, runIn_bind, runIn_call, hcheck]
  rfl

-- More patience makes no difference to a reading that finished with less.
theorem runIn_readAvailable_of_le {patience patience' : Nat} (hle : patience ≤ patience')
    (hends : ((channel.patient patience).readAvailable.runIn world).1 ≠ .error .unfinished) :
    (channel.patient patience').readAvailable.runIn world =
      (channel.patient patience).readAvailable.runIn world := by
  rcases hcheck : channel.available world with ⟨fault | pending, checked⟩
  case error =>
    rw [runIn_readAvailable_of_error (channel.patient patience) hcheck,
      runIn_readAvailable_of_error (channel.patient patience') hcheck]
  case ok =>
    have hfill : ∀ patience, (channel.patient patience).readAvailable.runIn world =
        (channel.fill patience (List.replicate pending 0)).runIn checked := by
      intro patience
      rw [runIn_readAvailable_of_ok (channel.patient patience) hcheck, fill_patient]
      rfl
    rw [hfill] at hends ⊢
    rw [hfill]
    exact runIn_fill_of_le channel hle hends

-- Given the patience for so many reads or for more, reading what is buffered comes to this.
structure ComesTo (channel : Channel ω) (world : ω) (enough : Nat)
    (result : Except (Stop Fault) Bytes) (after : ω) (effects : List Effect) : Prop where
  ends : result ≠ .error .unfinished
  run : ∀ patience, enough ≤ patience →
    (channel.patient patience).readAvailable.runIn world = (result, after)
  recorded : ∀ patience, enough ≤ patience →
    (channel.patient patience).recorded.readAvailable.runIn (world, []) = (result, after, effects)

theorem comesTo_of_ends {enough : Nat} {result : Except (Stop Fault) Bytes} {after : ω}
    {effects : List Effect} (hends : result ≠ .error .unfinished)
    (hrun : (channel.patient enough).recorded.readAvailable.runIn (world, []) =
      (result, after, effects)) : channel.ComesTo world enough result after effects := by
  have hrecorded : ∀ patience, enough ≤ patience →
      (channel.patient patience).recorded.readAvailable.runIn (world, []) =
        (result, after, effects) := by
    intro patience hle
    refine (channel.recorded.runIn_readAvailable_of_le hle ?_).trans hrun
    exact fun hstop => hends ((congrArg Prod.fst hrun).symm.trans hstop)
  refine ⟨hends, fun patience hle => ?_, hrecorded⟩
  obtain ⟨effects', hplain, -⟩ := (channel.patient patience).readAvailable_records world []
  obtain ⟨hresult, hrest⟩ := Prod.mk.inj (hplain.symm.trans (hrecorded patience hle))
  exact Prod.ext hresult (Prod.mk.inj hrest).1

theorem recorded_available {outcome : Except Fault Nat}
    (hcheck : channel.available world = (outcome, checked)) :
    channel.recorded.available (world, []) = (outcome, checked, [.available outcome]) := by
  have hrecorded : channel.recorded.available (world, []) = ((channel.available world).1,
      (channel.available world).2, [Effect.available (channel.available world).1]) := rfl
  rw [hrecorded, hcheck]

-- The patience for as many reads as bytes are pending and reads are interrupted is enough.
theorem readAvailable_narrows {pending most : Nat}
    (hcheck : channel.available world = (.ok pending, checked))
    (hinterrupted : interruptions
      ((channel.patient (pending + most)).recorded.readAvailable.runIn (world, [])).2.2 ≤ most) :
    ∃ result after reads,
      channel.ComesTo world (pending + most) result after (.available (.ok pending) :: reads) ∧
      Narrowing pending reads 0 ∧ interruptions reads ≤ most := by
  have hread := runIn_readAvailable_of_ok _
    ((channel.patient (pending + most)).recorded_available hcheck)
  obtain ⟨reads, hfill, hfilling⟩ := fill_records (channel.patient (pending + most)) (pending + most)
    (List.replicate pending 0) checked [.available (.ok pending)]
  obtain ⟨next, hnarrowing, hends⟩ := hfilling.narrowing
  rw [List.length_replicate] at hnarrowing
  have hrun := hread.trans hfill
  have hmost : interruptions reads ≤ most := by
    rw [hrun] at hinterrupted
    exact hinterrupted
  have hnext : next = 0 := Decidable.byContradiction fun hne => by
    have hunfinished := Decidable.not_not.mp (mt hends.mpr hne)
    have hlength := fill_length_of_unfinished (channel.patient (pending + most))
      ((congrArg Prod.fst hfill).trans hunfinished)
    rw [hfill] at hlength
    have hreads := hnarrowing.length_le
    simp only [List.length_append, List.length_singleton] at hlength
    omega
  rw [hnext] at hnarrowing
  exact ⟨_, _, reads, channel.comesTo_of_ends (hends.mp hnext) hrun, hnarrowing, hmost⟩

end Enough

-- If at most so many reads are ever interrupted, however long the reading is let go on, then it ends, and
-- there are at most as many reads as bytes are pending and reads are interrupted.
theorem readAvailable_ends {ω : Type} (channel : Channel ω) (world : ω) (most : Nat)
    (hinterrupted : ∀ patience, interruptions
      ((channel.patient patience).recorded.readAvailable.runIn (world, [])).2.2 ≤ most) :
    (∃ fault, (channel.available world).1 = .error fault ∧
      channel.ComesTo world 0 (.error (.failed fault)) (channel.available world).2
        [.available (.error fault)]) ∨
    ∃ pending result after reads, (channel.available world).1 = .ok pending ∧
      channel.ComesTo world (pending + most) result after (.available (.ok pending) :: reads) ∧
      reads.length ≤ pending + most ∧ (pending = 0 → reads = []) ∧ Narrowing pending reads 0 := by
  rcases hcheck : channel.available world with ⟨fault | pending, checked⟩
  case error =>
    have hread := runIn_readAvailable_of_error _ ((channel.patient 0).recorded_available hcheck)
    exact .inl ⟨fault, rfl, channel.comesTo_of_ends nofun hread⟩
  case ok =>
    obtain ⟨result, after, reads, hcomes, hnarrowing, hmost⟩ :=
      channel.readAvailable_narrows hcheck (hinterrupted (pending + most))
    have hlength := hnarrowing.length_le
    refine .inr ⟨pending, result, after, reads, rfl, hcomes, by omega, ?_, hnarrowing⟩
    rintro rfl
    exact hnarrowing.eq_nil

theorem interrupted_ends :
    let channel := (Playback.bench 0).toChannel
    let world : Playback := ⟨0, [.ok 3], [.error (.plain .interrupted), Playback.whole "n",
      .error (.plain .interrupted), Playback.whole "sh"]⟩
    (∀ patience, interruptions
      ((channel.patient patience).recorded.readAvailable.runIn (world, [])).2.2 ≤ 2) ∧
    ∃ result after reads,
      channel.ComesTo world (3 + 2) result after (.available (.ok 3) :: reads) ∧
      reads.length ≤ 3 + 2 ∧ Narrowing 3 reads 0 := by
  intro channel world
  have hinterrupted : ∀ patience, interruptions
      ((channel.patient patience).recorded.readAvailable.runIn (world, [])).2.2 ≤ 2 := by
    intro patience
    rcases Nat.lt_or_ge patience 4 with hfew | henough
    · have hall : ∀ patience < 4, interruptions
          ((channel.patient patience).recorded.readAvailable.runIn (world, [])).2.2 ≤ 2 := by decide
      exact hall patience hfew
    · have hends : ((channel.recorded.patient 4).readAvailable.runIn (world, [])).1 ≠
          .error .unfinished := by decide
      have hsame := channel.recorded.runIn_readAvailable_of_le henough hends
      have hfour : interruptions
          ((channel.recorded.patient 4).readAvailable.runIn (world, [])).2.2 ≤ 2 := by decide
      rwa [← hsame] at hfour
  refine ⟨hinterrupted, ?_⟩
  rcases readAvailable_ends channel world 2 hinterrupted with
    ⟨_, hfault, _⟩ | ⟨_, result, after, reads, hpending, hcomes, hlength, _, hnarrowing⟩
  · cases hfault
  · cases hpending
    exact ⟨result, after, reads, hcomes, hlength, hnarrowing⟩

end Channel

end BoardSmoke
