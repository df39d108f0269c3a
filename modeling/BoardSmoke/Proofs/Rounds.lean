import BoardSmoke.Proofs.Patience

namespace BoardSmoke

open Session

variable {ω : Type} {channel : Channel ω} {world after : ω} {used : Nat}

theorem Session.Yields.of_round {ε α : Type} (loop : Nat → Nat → Session ω ε α) {a : α}
    (h : Yields (fun patience => loop patience (patience - (used + 1) + 1)) world a after) :
    Yields (fun patience => loop patience (patience - used)) world a after := by
  refine h.of_eq (used + 1) fun patience hpatience => ?_
  rw [show patience - used = patience - (used + 1) + 1 by omega]

theorem Fault.not_isTimeout_of_isInterruption {fault : Fault} (h : fault.isInterruption = true) :
    fault.isTimeout = false := by
  simp only [isInterruption, isTimeout, decide_eq_true_eq, decide_eq_false_iff_not] at h ⊢
  rw [h]
  decide

theorem Fault.not_isInterruption_of_isTimeout {fault : Fault} (h : fault.isTimeout = true) :
    fault.isInterruption = false := by
  refine Bool.eq_false_iff.mpr fun hinterruption => ?_
  rw [not_isTimeout_of_isInterruption hinterruption] at h
  cases h

namespace Channel

variable {buffer placed bytes later : Bytes}

theorem take_overlay (h : placed.length ≤ buffer.length) :
    (overlay buffer placed).take placed.length = placed := by
  rw [overlay, List.take_of_length_le h]
  exact List.take_left

theorem drop_overlay (h : placed.length ≤ buffer.length) :
    (overlay buffer placed).drop placed.length = buffer.drop placed.length := by
  rw [overlay, List.take_of_length_le h]
  exact List.drop_left

theorem fill_yields_nil (channel : Channel ω) (used : Nat) (world : ω) :
    Yields (fun patience => (channel.patient patience).fill (patience - used) []) world [] world :=
  yields_of_forall fun patience => by cases patience - used <;> rfl

theorem fill_yields_interrupted {byte : UInt8} {rest : Bytes} {fault : Fault}
    (hread : (channel.read (byte :: rest).length world).1 = .error fault)
    (hfault : fault.isInterruption = true)
    (h : Yields
      (fun patience => (channel.patient patience).fill (patience - (used + 1)) (byte :: rest))
      (channel.read (byte :: rest).length world).2 bytes after) :
    Yields (fun patience => (channel.patient patience).fill (patience - used) (byte :: rest)) world
      bytes after := by
  refine .of_round (fun patience rounds => (channel.patient patience).fill rounds (byte :: rest)) ?_
  refine (yields_attempt (channel.read (byte :: rest).length) world).bind ?_
  simpa only [hread, Fault.not_isTimeout_of_isInterruption hfault, hfault, Bool.false_eq_true,
    if_false, if_true] using h

theorem fill_yields_part {byte : UInt8} {rest first : Bytes}
    (hread : (channel.read (byte :: rest).length world).1 = .ok ⟨first, first.length⟩)
    (hpos : 0 < first.length) (hle : first.length ≤ (byte :: rest).length)
    (h : Yields
      (fun patience => (channel.patient patience).fill (patience - (used + 1))
        ((byte :: rest).drop first.length))
      (channel.read (byte :: rest).length world).2 later after) :
    Yields (fun patience => (channel.patient patience).fill (patience - used) (byte :: rest)) world
      (first ++ later) after := by
  refine .of_round (fun patience rounds => (channel.patient patience).fill rounds (byte :: rest)) ?_
  refine (yields_attempt (channel.read (byte :: rest).length) world).bind ?_
  rw [← drop_overlay hle] at h
  simp only [hread, Nat.ne_of_gt hpos, if_false, take_overlay hle]
  exact h.bind (yields_pure _ _)

end Channel

namespace Console

variable {deadline : Nat} {text : String}

theorem collect_yields_elapsed (h : deadline ≤ (channel.now world).1) :
    Yields (fun patience => collect (channel.patient patience) deadline (patience - used)) world ""
      (channel.now world).2 := by
  refine .of_round (fun patience rounds => collect (channel.patient patience) deadline rounds) ?_
  refine (yields_query channel.now world).bind ?_
  simp only [Nat.not_lt.mpr h, if_false]
  exact yields_pure _ _

theorem collect_yields_silent (hnow : (channel.now world).1 < deadline)
    (hcount : (channel.available (channel.now world).2).1 = .ok 0)
    (h : Yields
      (fun patience => collect (channel.patient patience) deadline (patience - (used + 1)))
      (channel.sleep pollInterval (channel.available (channel.now world).2).2) text after) :
    Yields (fun patience => collect (channel.patient patience) deadline (patience - used)) world text
      after := by
  refine .of_round (fun patience rounds => collect (channel.patient patience) deadline rounds) ?_
  refine (yields_query channel.now world).bind ?_
  simp only [hnow, if_true]
  refine (yields_call hcount).bind ?_
  simp only [Nat.lt_irrefl, if_false]
  exact (yields_act (channel.sleep pollInterval) _).bind h

theorem collect_yields_received {count : Nat} {bytes : Bytes} {read : ω}
    (hnow : (channel.now world).1 < deadline)
    (hcount : (channel.available (channel.now world).2).1 = .ok count) (hpos : 0 < count)
    (hread : Yields (fun patience => (channel.patient patience).readAvailable)
      (channel.available (channel.now world).2).2 bytes read)
    (h : Yields
      (fun patience => collect (channel.patient patience) deadline (patience - (used + 1)))
      (channel.note ⟨.trace, .console, "Drained " ++ toString bytes.length ++ " bytes"⟩ read) text
      after) :
    Yields (fun patience => collect (channel.patient patience) deadline (patience - used)) world
      (Utf8.text bytes ++ text) after := by
  refine .of_round (fun patience rounds => collect (channel.patient patience) deadline rounds) ?_
  refine (yields_query channel.now world).bind ?_
  simp only [hnow, if_true]
  refine (yields_call hcount).bind ?_
  simp only [hpos, if_true]
  refine hread.bind ((yields_act (channel.note ⟨.trace, .console, _⟩) read).bind ?_)
  exact h.bind (yields_pure _ _)

end Console

end BoardSmoke
