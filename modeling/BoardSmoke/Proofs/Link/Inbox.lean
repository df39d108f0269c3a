import BoardSmoke.Proofs.Recording.Transcript

namespace BoardSmoke

-- What has arrived since the buffer was last reset, and what of it is still buffered.
structure Inbox where
  arrived : Bytes
  buffered : Bytes

namespace Inbox

variable {a b : Inbox}

-- What an effect may come to. A read takes some of what is buffered, from the front, or fails and
-- takes nothing; a reset loses what is buffered. What a check reports does not matter.
inductive Step : Inbox → Effect → Inbox → Prop
  | taken {arrived first later : Bytes} {room : Nat} (hroom : first.length ≤ room) :
      Step ⟨arrived, first ++ later⟩ (.read room (.ok ⟨first, first.length⟩)) ⟨arrived, later⟩
  | missed {inbox : Inbox} {room : Nat} {fault : Fault} :
      Step inbox (.read room (.error fault)) inbox
  | discarded {inbox : Inbox} : Step inbox (.reset (.ok ())) ⟨[], []⟩
  | kept {inbox : Inbox} {fault : Fault} : Step inbox (.reset (.error fault)) inbox
  | checked {inbox : Inbox} {outcome : Except Fault Nat} : Step inbox (.available outcome) inbox
  | offered {inbox : Inbox} {line : Bytes} {outcome : Except Fault Unit} :
      Step inbox (.write line outcome) inbox
  | aside {inbox : Inbox} {effect : Effect} (heffect : effect.isAside = true) :
      Step inbox effect inbox

-- The inbox before and after some effects. Before each of them and at the end something may arrive.
inductive Run : Inbox → List Effect → Inbox → Prop
  | done {inbox : Inbox} : Run inbox [] inbox
  | arrives {arrived buffered : Bytes} {effects : List Effect} {after : Inbox} (bytes : Bytes)
      (hlater : Run ⟨arrived ++ bytes, buffered ++ bytes⟩ effects after) :
      Run ⟨arrived, buffered⟩ effects after
  | step {before next after : Inbox} {effect : Effect} {effects : List Effect}
      (hstep : Step before effect next) (hlater : Run next effects after) :
      Run before (effect :: effects) after

-- Any part of what is buffered can be read, if there is room for it.
theorem Run.take {arrived buffered : Bytes} {room : Nat} {effects : List Effect}
    (first later : Bytes) (hbuffered : buffered = first ++ later) (hroom : first.length ≤ room)
    (hlater : Run ⟨arrived, later⟩ effects b) :
    Run ⟨arrived, buffered⟩ (.read room (.ok ⟨first, first.length⟩) :: effects) b :=
  hbuffered ▸ .step (.taken hroom) hlater

theorem Step.keeps {effect : Effect} (h : Step a effect b) : effect.Keeps := by
  cases h with
  | taken hroom => exact ⟨rfl, hroom⟩
  | aside heffect =>
      cases effect with
      | read room outcome => cases heffect
      | _ => trivial
  | _ => trivial

theorem Run.keeps {effects : List Effect} (h : Run a effects b) :
    ∀ effect ∈ effects, effect.Keeps := by
  induction h with
  | done => exact List.forall_mem_nil _
  | arrives _ _ ih => exact ih
  | step hstep _ ih => exact List.forall_mem_cons.mpr ⟨hstep.keeps, ih⟩

-- From a reset on, nothing that was there before matters.
theorem Run.of_reset {before later : List Effect}
    (h : Run a (before ++ .reset (.ok ()) :: later) b) : Run ⟨[], []⟩ later b := by
  generalize heffects : before ++ .reset (.ok ()) :: later = effects at h
  induction h generalizing before with
  | done => simp at heffects
  | arrives _ _ ih => exact ih heffects
  | step hstep hlater ih =>
      cases before with
      | nil =>
          cases heffects
          cases hstep with
          | discarded => exact hlater
          | aside heffect => cases heffect
      | cons effect before =>
          cases heffects
          exact ih rfl

-- As long as there is no reset, what was taken and what is buffered make up what arrived.
theorem Run.conserves {effects : List Effect} (h : Run a effects b)
    (hreset : .reset (.ok ()) ∉ effects) {past : Bytes} (hpast : past ++ a.buffered = a.arrived) :
    past ++ placed effects ++ b.buffered = b.arrived := by
  induction h generalizing past with
  | done => simpa [placed] using hpast
  | arrives bytes _ ih =>
      refine ih hreset ?_
      rw [← List.append_assoc, hpast]
  | @step before next after effect effects hstep _ ih =>
      rw [List.mem_cons, not_or] at hreset
      have hbalance : past ++ effect.placed ++ next.buffered = next.arrived := by
        cases hstep with
        | taken _ => simpa [Effect.placed] using hpast
        | discarded => exact absurd rfl hreset.1
        | aside heffect =>
            cases effect with
            | read room outcome => cases heffect
            | _ => simpa [Effect.placed] using hpast
        | _ => simpa [Effect.placed] using hpast
      rw [placed_cons, ← List.append_assoc]
      exact ih hreset.2 hbalance

-- What was heard since a reset is what arrived since then, up to what is still buffered.
theorem Run.heard {before later : List Effect} {utterances : List Utterance}
    (h : Run a (before ++ .reset (.ok ()) :: later) b) (hlater : Transcript later utterances) :
    heardBytes utterances ++ b.buffered = b.arrived := by
  have hrun := h.of_reset
  have hempty : [] ++ (Inbox.mk [] []).buffered = (Inbox.mk [] []).arrived := rfl
  have hconserved := hrun.conserves hlater.reset_notMem hempty
  rwa [List.nil_append, hlater.placed_eq hrun.keeps] at hconserved

end Inbox

end BoardSmoke
