import BoardSmoke.Proofs.Rounds

namespace BoardSmoke

open Session

-- What is held for reading in a world, and how a world comes out of another one when some bytes are
-- taken from it. More may come to be held meanwhile.
structure Supply (ω : Type) where
  Ready : ω → Prop
  held : ω → Nat
  -- How often the next read may still be interrupted.
  interruptions : ω → Nat
  Takes : Bytes → ω → ω → Prop
  nothing : ∀ {world}, Ready world → Takes [] world world
  trans : ∀ {first second before middle after}, Takes first before middle →
    Takes second middle after → Takes (first ++ second) before after
  ready : ∀ {first before after}, Takes first before after → Ready after
  held_le : ∀ {first before after}, Takes first before after →
    held before ≤ first.length + held after

namespace Channel

variable {ω : Type} {channel : Channel ω} {supply : Supply ω}

-- A read of what is held takes some of it, if it is not interrupted.
structure Supplies (channel : Channel ω) (supply : Supply ω) : Prop where
  read : ∀ {world} {room : Nat}, supply.Ready world → 0 < room → room ≤ supply.held world →
    (∃ fault, (channel.read room world).1 = .error fault ∧ fault.isInterruption = true ∧
      supply.Takes [] world (channel.read room world).2 ∧
      supply.interruptions (channel.read room world).2 < supply.interruptions world) ∨
    ∃ first, (channel.read room world).1 = .ok ⟨first, first.length⟩ ∧ 0 < first.length ∧
      first.length ≤ room ∧ supply.Takes first world (channel.read room world).2

namespace Supplies

theorem fill_yields (h : channel.Supplies supply) {world : ω} (buffer : Bytes) (used : Nat)
    (hready : supply.Ready world) (hroom : buffer.length ≤ supply.held world) :
    ∃ bytes after, Yields
      (fun patience => (channel.patient patience).fill (patience - used) buffer) world bytes after ∧
      bytes.length = buffer.length ∧ supply.Takes bytes world after := by
  cases hbuffer : buffer with
  | nil => exact ⟨[], world, fill_yields_nil _ used world, rfl, supply.nothing hready⟩
  | cons byte rest =>
      rw [hbuffer] at hroom
      rcases h.read hready (by simp) hroom with
        ⟨fault, hfault, hinterruption, htakes, hless⟩ | ⟨first, hfirst, hpos, hle, htakes⟩
      · have hheld := supply.held_le htakes
        simp only [List.length_nil, Nat.zero_add] at hheld
        obtain ⟨bytes, after, hfill, hlength, htakes'⟩ :=
          h.fill_yields (byte :: rest) (used + 1) (supply.ready htakes)
            (Nat.le_trans hroom hheld)
        exact ⟨bytes, after, fill_yields_interrupted hfault hinterruption hfill, hlength,
          supply.trans htakes htakes'⟩
      · have hheld := Nat.le_trans hroom (supply.held_le htakes)
        obtain ⟨later, after, hfill, hlength, htakes'⟩ :=
          h.fill_yields ((byte :: rest).drop first.length) (used + 1)
            (supply.ready htakes) (by rw [List.length_drop]; omega)
        refine ⟨first ++ later, after, fill_yields_part hfirst hpos hle hfill, ?_,
          supply.trans htakes htakes'⟩
        rw [List.length_append, hlength, List.length_drop]
        omega
  -- every read leaves less of the buffer to be filled, or else uses up an interruption
  termination_by (buffer.length, supply.interruptions world)
  decreasing_by
    · rw [hbuffer]
      exact Prod.Lex.right _ hless
    · rw [hbuffer]
      refine Prod.Lex.left _ _ ?_
      rw [List.length_drop]
      omega

-- As many bytes are read as the check counts, if they are held.
theorem readAvailable_yields (h : channel.Supplies supply) {world : ω} {count : Nat}
    (hcount : (channel.available world).1 = .ok count)
    (hready : supply.Ready (channel.available world).2)
    (hheld : count ≤ supply.held (channel.available world).2) :
    ∃ bytes after, Yields (fun patience => (channel.patient patience).readAvailable) world bytes
      after ∧ bytes.length = count ∧ supply.Takes bytes (channel.available world).2 after := by
  obtain ⟨bytes, after, hfill, hlength, htakes⟩ :=
    h.fill_yields (List.replicate count 0) 0 hready (by rwa [List.length_replicate])
  rw [List.length_replicate] at hlength
  exact ⟨bytes, after, (yields_call hcount).bind hfill, hlength, htakes⟩

end Supplies

end Channel

end BoardSmoke
