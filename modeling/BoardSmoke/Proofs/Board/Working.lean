import BoardSmoke.Proofs.Board.Line
import BoardSmoke.Proofs.Channel.Supply

namespace BoardSmoke

open Session

structure Outlook (ω : Type) where
  -- The board listens.
  Ready : ω → Prop
  line : ω → Line
  -- How often the next read may still be interrupted.
  interruptions : ω → Nat
  time : ω → Nat

variable {ω : Type}

namespace Outlook

-- Some bytes are taken from what is to be read, and more of it may arrive meanwhile.
structure Takes (outlook : Outlook ω) (first : Bytes) (before after : ω) : Prop where
  ready : outlook.Ready after
  parameters : (outlook.line after).parameters = (outlook.line before).parameters
  unread : first ++ (outlook.line after).unread = (outlook.line before).unread
  underway : (outlook.line after).underway <:+ (outlook.line before).underway
  time : outlook.time before ≤ outlook.time after

def Passes (outlook : Outlook ω) (before after : ω) : Prop := outlook.Takes [] before after

variable {outlook : Outlook ω} {before middle after : ω} {first second : Bytes}

theorem Takes.trans (h : outlook.Takes first before middle)
    (h' : outlook.Takes second middle after) : outlook.Takes (first ++ second) before after where
  ready := h'.ready
  parameters := h'.parameters.trans h.parameters
  unread := by rw [List.append_assoc, h'.unread, h.unread]
  underway := h'.underway.trans h.underway
  time := Nat.le_trans h.time h'.time

theorem Passes.trans (h : outlook.Passes before middle) (h' : outlook.Takes first middle after) :
    outlook.Takes first before after :=
  Takes.trans h h'

theorem Takes.passes (h : outlook.Takes first before middle) (h' : outlook.Passes middle after) :
    outlook.Takes first before after := by
  simpa using Takes.trans h h'

theorem Passes.unread_eq (h : outlook.Passes before after) :
    (outlook.line after).unread = (outlook.line before).unread := h.unread

theorem Takes.unread_length (h : outlook.Takes first before after) :
    first.length + (outlook.line after).unread.length = (outlook.line before).unread.length := by
  rw [← h.unread, List.length_append]

theorem Takes.arrived_length (h : outlook.Takes first before after) :
    (outlook.line before).arrived.length ≤ first.length + (outlook.line after).arrived.length := by
  have hunread := h.unread_length
  have hunderway := h.underway.length_le
  simp only [Line.unread, List.length_append] at hunread
  omega

theorem passes_self {world : ω} (h : outlook.Ready world) : outlook.Passes world world :=
  ⟨h, rfl, rfl, List.suffix_refl _, Nat.le_refl _⟩

def supply (outlook : Outlook ω) : Supply ω where
  Ready := outlook.Ready
  held world := (outlook.line world).arrived.length
  interruptions := outlook.interruptions
  Takes := outlook.Takes
  nothing := passes_self
  trans := Takes.trans
  ready := Takes.ready
  held_le := Takes.arrived_length

end Outlook

-- The laws of a bench that works, with a board that answers commands so. Flashing, opening, closing,
-- the logs and the disk succeed. After a reset the board may say anything, and that may arrive at any
-- time; an answer arrives as it is given, behind all that was said before. A read of what has arrived
-- takes some of it, if it is not interrupted.
structure Bench.Working (bench : Bench ω)
    (answers : Parameters → String → Bytes → Parameters → Prop) (outlook : Outlook ω) : Prop where
  flash : ∀ {world}, outlook.Ready world → (bench.flash world).1 = .ok () ∧
    outlook.Ready (bench.flash world).2 ∧
    (outlook.line (bench.flash world).2).parameters = (outlook.line world).parameters
  openChannel : ∀ {world} (config : Config), outlook.Ready world →
    (bench.openChannel config world).1 = .ok () ∧
    outlook.Ready (bench.openChannel config world).2 ∧
    (outlook.line (bench.openChannel config world).2).parameters =
      (outlook.line world).parameters
  reset : ∀ {world}, outlook.Ready world → (bench.reset world).1 = .ok () ∧
    outlook.Ready (bench.reset world).2 ∧
    (outlook.line (bench.reset world).2).parameters = (outlook.line world).parameters
  available : ∀ {world}, outlook.Ready world →
    (bench.available world).1 = .ok (outlook.line (bench.available world).2).arrived.length ∧
    outlook.Passes world (bench.available world).2
  read : ∀ {world} {room : Nat}, outlook.Ready world → 0 < room →
    room ≤ (outlook.line world).arrived.length →
    (∃ fault, (bench.read room world).1 = .error fault ∧ fault.isInterruption = true ∧
      outlook.Passes world (bench.read room world).2 ∧
      outlook.interruptions (bench.read room world).2 < outlook.interruptions world) ∨
    ∃ first, (bench.read room world).1 = .ok ⟨first, first.length⟩ ∧ 0 < first.length ∧
      first.length ≤ room ∧ outlook.Takes first world (bench.read room world).2
  write : ∀ {world} (command : String), outlook.Ready world →
    ∃ answer, (bench.write (Utf8.bytes (command ++ "\n")) world).1 = .ok () ∧
      outlook.Ready (bench.write (Utf8.bytes (command ++ "\n")) world).2 ∧
      answers (outlook.line world).parameters command answer
        (outlook.line (bench.write (Utf8.bytes (command ++ "\n")) world).2).parameters ∧
      (outlook.line (bench.write (Utf8.bytes (command ++ "\n")) world).2).arrived =
        (outlook.line world).unread ++ answer ∧
      (outlook.line (bench.write (Utf8.bytes (command ++ "\n")) world).2).underway = []
  now : ∀ {world}, outlook.Ready world →
    (bench.now world).1 = outlook.time (bench.now world).2 ∧ outlook.Passes world (bench.now world).2
  sleep : ∀ {world} (duration : Duration), outlook.Ready world →
    outlook.time world + duration.nanoseconds ≤ outlook.time (bench.sleep duration world) ∧
    outlook.Passes world (bench.sleep duration world)
  note : ∀ {world} (record : Record), outlook.Ready world →
    outlook.Passes world (bench.note record world)
  localTime : ∀ {world}, outlook.Ready world → outlook.Passes world (bench.localTime world).2
  makeFolders : ∀ {world} (path : Bytes), outlook.Ready world →
    (bench.makeFolders path world).1 = .ok () ∧
    outlook.Passes world (bench.makeFolders path world).2
  writeFile : ∀ {world} (path content : Bytes), outlook.Ready world →
    (bench.writeFile path content world).1 = .ok () ∧
    outlook.Passes world (bench.writeFile path content world).2
  close : ∀ {world}, outlook.Ready world →
    (outlook.line (bench.close world)).parameters = (outlook.line world).parameters

abbrev Bench.Prompt (bench : Bench ω) (echo : Bool) (outlook : Outlook ω) : Prop :=
  bench.Working (Answers echo) outlook

namespace Bench.Working

variable {bench : Bench ω} {answers : Parameters → String → Bytes → Parameters → Prop}
  {outlook : Outlook ω}

theorem supplies (h : bench.Working answers outlook) : bench.toChannel.Supplies outlook.supply :=
  ⟨h.read⟩

-- All that has arrived is read; only what is underway may be left.
theorem readAvailable_yields (h : bench.Working answers outlook) {world : ω}
    (hready : outlook.Ready world) :
    ∃ bytes after, Yields (fun patience => (bench.toChannel.patient patience).readAvailable) world
      bytes after ∧ outlook.Takes bytes world after ∧
      (outlook.line world).arrived.length ≤ bytes.length ∧
      (outlook.line after).unread.length ≤ (outlook.line world).underway.length := by
  obtain ⟨hcount, hpasses⟩ := h.available hready
  obtain ⟨bytes, after, hread, hlength, htakes⟩ :=
    h.supplies.readAvailable_yields hcount hpasses.ready (Nat.le_refl _)
  refine ⟨bytes, after, hread, hpasses.trans htakes, ?_, ?_⟩
  · have harrived := hpasses.arrived_length
    simp only [List.length_nil] at harrived
    omega
  · have hunread := htakes.unread_length
    have hunderway := hpasses.underway.length_le
    simp only [Line.unread, List.length_append] at hunread ⊢
    omega

theorem collect_yields (h : bench.Working answers outlook) {world : ω} (deadline used : Nat)
    (hready : outlook.Ready world) :
    ∃ text after, Yields
      (fun patience => Console.collect (bench.toChannel.patient patience) deadline (patience - used))
      world text after ∧ outlook.Ready after ∧
      (outlook.line after).parameters = (outlook.line world).parameters := by
  obtain ⟨htime, hnow⟩ := h.now hready
  by_cases hover : deadline ≤ outlook.time (bench.now world).2
  · exact ⟨"", (bench.now world).2, Console.collect_yields_elapsed (htime ▸ hover), hnow.ready,
      hnow.parameters⟩
  have hearly : (bench.now world).1 < deadline := htime ▸ Nat.lt_of_not_le hover
  obtain ⟨hcount, hpasses⟩ := h.available hnow.ready
  have hpolled := hnow.trans hpasses
  by_cases hsilent : (outlook.line (bench.available (bench.now world).2).2).arrived.length = 0
  · obtain ⟨hlater, hslept⟩ := h.sleep Console.pollInterval hpasses.ready
    have hrounded := hpolled.trans hslept
    obtain ⟨text, after, hcollect, hready', hparameters⟩ :=
      h.collect_yields deadline (used + 1) hslept.ready
    exact ⟨text, after, Console.collect_yields_silent hearly (hsilent ▸ hcount) hcollect, hready',
      hparameters.trans hrounded.parameters⟩
  · obtain ⟨bytes, drained, hread, htakes, hlength, _⟩ := h.readAvailable_yields hpasses.ready
    have hnoted := h.note ⟨.trace, .console, "Drained " ++ toString bytes.length ++ " bytes"⟩
      htakes.ready
    have hrounded := (hpolled.trans htakes).passes hnoted
    obtain ⟨text, after, hcollect, hready', hparameters⟩ :=
      h.collect_yields deadline (used + 1) hnoted.ready
    have hpos := Nat.pos_of_ne_zero hsilent
    exact ⟨Utf8.text bytes ++ text, after,
      Console.collect_yields_received hearly hcount hpos hread hcollect, hready',
      hparameters.trans hrounded.parameters⟩
  -- every poll reads something, of which there is only so much, or else brings the deadline closer
  termination_by ((outlook.line world).unread.length, deadline - outlook.time world)
  decreasing_by
    · have hstart := hnow.time
      have hchecked := hpasses.time
      have hpoll : 0 < Console.pollInterval.nanoseconds := by decide
      rw [Outlook.Passes.unread_eq hrounded]
      refine Prod.Lex.right _ ?_
      omega
    · have hless := hrounded.unread_length
      refine Prod.Lex.left _ _ ?_
      simp only [List.nil_append] at hless
      omega

theorem drain_yields (h : bench.Working answers outlook) {world : ω} {window : Duration}
    (hready : outlook.Ready world)
    (hdeadline : (Clock.deadline? (bench.now world).1 window).isSome = true) :
    ∃ text after, Yields (fun patience => Console.drain (bench.toChannel.patient patience) window)
      world text after ∧ outlook.Ready after ∧
      (outlook.line after).parameters = (outlook.line world).parameters := by
  obtain ⟨deadline, hdeadline⟩ := Option.isSome_iff_exists.mp hdeadline
  obtain ⟨_, hnow⟩ := h.now hready
  obtain ⟨text, after, hcollect, hready', hparameters⟩ := h.collect_yields deadline 0 hnow.ready
  refine ⟨text, after, (yields_query bench.now world).bind ?_, hready',
    hparameters.trans hnow.parameters⟩
  simp only [hdeadline]
  exact hcollect

-- The response to a command is all that was to be read and the whole answer.
theorem send_yields (h : bench.Working answers outlook) {world : ω} (command : String)
    (settle : Duration) (hready : outlook.Ready world) :
    ∃ answer after,
      answers (outlook.line world).parameters command answer (outlook.line after).parameters ∧
      Yields (fun patience => Console.send (bench.toChannel.patient patience) command settle) world
        (Utf8.text ((outlook.line world).unread ++ answer)) after ∧
      outlook.Ready after ∧ (outlook.line after).unread = [] := by
  have hnoted := h.note ⟨.debug, .console,
    "Sending " ++ Text.quoted command ++ ", settling for " ++ settle.text⟩ hready
  obtain ⟨answer, hwrite, hready', hanswer, harrived, hunderway⟩ :=
    Console.commandLine_eq command ▸ h.write command hnoted.ready
  obtain ⟨_, hslept⟩ := h.sleep settle hready'
  obtain ⟨bytes, read, hread, htakes, _, hleft⟩ := h.readAvailable_yields hslept.ready
  have hnoted' := h.note ⟨.trace, .console, "Received " ++ toString bytes.length ++
    " bytes in response to " ++ Text.quoted command⟩ htakes.ready
  have hnothing : (outlook.line read).unread = [] := by
    have hle := hslept.underway.length_le
    rw [hunderway, List.length_nil] at hle
    exact List.eq_nil_of_length_eq_zero (by omega)
  have hbytes : bytes = (outlook.line world).unread ++ answer := by
    have hunread := htakes.unread
    rwa [hnothing, List.append_nil, hslept.unread_eq, Line.unread, harrived, hunderway,
      List.append_nil, hnoted.unread_eq] at hunread
  refine ⟨answer, _, ?_, ?_, hnoted'.ready, hnoted'.unread_eq.trans hnothing⟩
  · rw [hnoted'.parameters, htakes.parameters, hslept.parameters, ← hnoted.parameters]
    exact hanswer
  · rw [← hbytes]
    refine (yields_act (bench.note ⟨.debug, .console, _⟩) world).bind ?_
    refine (yields_call hwrite).bind ?_
    refine (yields_act (bench.sleep settle) _).bind (hread.bind ?_)
    exact (yields_act (bench.note ⟨.trace, .console, _⟩) read).bind (yields_pure _ _)

end Bench.Working

end BoardSmoke
