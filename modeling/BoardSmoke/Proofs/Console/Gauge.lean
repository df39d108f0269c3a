import BoardSmoke.Proofs.Channel.Supply
import BoardSmoke.Proofs.Link.Inbox

namespace BoardSmoke

open Session

-- Some bytes are taken from the front, and some arrive.
structure Inbox.Passes (taken arrivals : Bytes) (before after : Inbox) : Prop where
  arrived : after.arrived = before.arrived ++ arrivals
  buffered : taken ++ after.buffered = before.buffered ++ arrivals

theorem Inbox.Passes.refl (inbox : Inbox) : Passes [] [] inbox inbox :=
  ⟨(List.append_nil _).symm, (List.append_nil _).symm⟩

theorem Inbox.Passes.trans {first second early late : Bytes} {before middle after : Inbox}
    (h : Passes first early before middle) (h' : Passes second late middle after) :
    Passes (first ++ second) (early ++ late) before after where
  arrived := by rw [h'.arrived, h.arrived, List.append_assoc]
  buffered := by
    rw [List.append_assoc, h'.buffered, ← List.append_assoc, h.buffered, List.append_assoc]

theorem Inbox.Passes.taken_eq {taken arrivals : Bytes} {before after : Inbox}
    (h : Passes taken arrivals before after) (hempty : after.buffered = []) :
    taken = before.buffered ++ arrivals := by
  rw [← h.buffered, hempty, List.append_nil]

theorem Inbox.Passes.arrived_eq {arrivals : Bytes} {before after : Inbox}
    (h : Passes [] arrivals before after) (hempty : before.buffered = []) :
    after.arrived = before.arrived ++ after.buffered := by
  have hbuffered := h.buffered
  rw [hempty, List.nil_append, List.nil_append] at hbuffered
  rw [h.arrived, hbuffered]

structure Gauge (ω : Type) where
  Ready : ω → Prop
  time : ω → Nat
  inbox : ω → Inbox
  -- How many bytes may still arrive before the next sleep.
  toCome : ω → Nat
  -- How often the next read may still be interrupted.
  interruptions : ω → Nat

variable {ω : Type}

namespace Gauge

variable {gauge : Gauge ω} {before middle after : ω} {first second : Bytes}

-- Some bytes are taken from what is buffered. Time stands still.
structure Takes (gauge : Gauge ω) (first : Bytes) (before after : ω) : Prop where
  ready : gauge.Ready after
  time : gauge.time after = gauge.time before
  passes : ∃ arrivals, (gauge.inbox before).Passes first arrivals (gauge.inbox after) ∧
    gauge.toCome after + arrivals.length ≤ gauge.toCome before

theorem takes_nothing {world : ω} (h : gauge.Ready world) : gauge.Takes [] world world :=
  ⟨h, rfl, [], .refl _, Nat.le_refl _⟩

theorem Takes.trans (h : gauge.Takes first before middle) (h' : gauge.Takes second middle after) :
    gauge.Takes (first ++ second) before after where
  ready := h'.ready
  time := h'.time.trans h.time
  passes := by
    obtain ⟨early, hearly, hle⟩ := h.passes
    obtain ⟨late, hlate, hle'⟩ := h'.passes
    refine ⟨early ++ late, hearly.trans hlate, ?_⟩
    rw [List.length_append]
    omega

-- What is buffered or may still arrive. Nothing but a sleep adds to it.
def outstanding (gauge : Gauge ω) (world : ω) : Nat :=
  (gauge.inbox world).buffered.length + gauge.toCome world

theorem Takes.outstanding_le (h : gauge.Takes first before after) :
    first.length + gauge.outstanding after ≤ gauge.outstanding before := by
  obtain ⟨arrivals, hpasses, hle⟩ := h.passes
  have hbuffered := congrArg List.length hpasses.buffered
  simp only [List.length_append] at hbuffered
  simp only [outstanding]
  omega

def supply (gauge : Gauge ω) : Supply ω where
  Ready := gauge.Ready
  held world := (gauge.inbox world).buffered.length
  interruptions := gauge.interruptions
  Takes := gauge.Takes
  nothing := takes_nothing
  trans := Takes.trans
  ready := Takes.ready
  held_le h := by
    obtain ⟨arrivals, hpasses, _⟩ := h.passes
    have hbuffered := congrArg List.length hpasses.buffered
    simp only [List.length_append] at hbuffered
    omega

end Gauge

-- The laws of such a channel. Bytes may arrive at any operation.
structure Channel.Steady (channel : Channel ω) (gauge : Gauge ω) : Prop where
  now : ∀ {world}, gauge.Ready world → (channel.now world).1 = gauge.time (channel.now world).2 ∧
    gauge.Takes [] world (channel.now world).2
  available : ∀ {world}, gauge.Ready world →
    (channel.available world).1 =
      .ok (gauge.inbox (channel.available world).2).buffered.length ∧
    gauge.Takes [] world (channel.available world).2
  supplies : channel.Supplies gauge.supply
  sleep : ∀ {world}, gauge.Ready world →
    gauge.Ready (channel.sleep Console.pollInterval world) ∧
    gauge.time (channel.sleep Console.pollInterval world) =
      gauge.time world + Console.pollInterval.nanoseconds ∧
    ∃ arrivals, (gauge.inbox world).Passes [] arrivals
      (gauge.inbox (channel.sleep Console.pollInterval world))
  note : ∀ {world} (record : Record), gauge.Ready world →
    gauge.Takes [] world (channel.note record world)

namespace Channel.Steady

variable {channel : Channel ω} {gauge : Gauge ω}

theorem readAvailable_yields (h : channel.Steady gauge) {world : ω} (hready : gauge.Ready world) :
    ∃ bytes after, Yields (fun patience => (channel.patient patience).readAvailable) world bytes
      after ∧ (gauge.inbox world).buffered.length ≤ bytes.length ∧ gauge.Takes bytes world after := by
  obtain ⟨hcount, havailable⟩ := h.available hready
  obtain ⟨bytes, after, hread, hlength, htakes⟩ :=
    h.supplies.readAvailable_yields hcount havailable.ready (Nat.le_refl _)
  have hheld : (gauge.inbox world).buffered.length ≤
      0 + (gauge.inbox (channel.available world).2).buffered.length :=
    gauge.supply.held_le havailable
  rw [Nat.zero_add, ← hlength] at hheld
  exact ⟨bytes, after, hread, hheld, havailable.trans htakes⟩

-- Before the deadline, the polls lead to a sleep in which it is reached. When that sleep begins,
-- nothing is left to be read; when it is over, the clock is read for the last time.
theorem collect_yields (h : channel.Steady gauge) {world : ω} (deadline used : Nat)
    (hready : gauge.Ready world) (hearly : gauge.time world < deadline) :
    ∃ text asleep, Yields
      (fun patience => Console.collect (channel.patient patience) deadline (patience - used)) world
      text (channel.now (channel.sleep Console.pollInterval asleep)).2 ∧
      gauge.Ready asleep ∧ (gauge.inbox asleep).buffered = [] ∧ gauge.time asleep < deadline ∧
      deadline ≤ gauge.time asleep + Console.pollInterval.nanoseconds := by
  obtain ⟨hreading, hnow⟩ := h.now hready
  have hbefore : (channel.now world).1 < deadline := by rwa [hreading, hnow.time]
  obtain ⟨hcount, havailable⟩ := h.available hnow.ready
  have hpolled := hnow.trans havailable
  by_cases hsilent : (gauge.inbox (channel.available (channel.now world).2).2).buffered = []
  · rw [hsilent] at hcount
    obtain ⟨hslept, hpassed, _⟩ := h.sleep havailable.ready
    have htime := hpassed.trans (congrArg (· + Console.pollInterval.nanoseconds) hpolled.time)
    by_cases hover : deadline ≤ gauge.time world + Console.pollInterval.nanoseconds
    · obtain ⟨hlast, hnow'⟩ := h.now hslept
      have hreached : deadline ≤ (channel.now (channel.sleep Console.pollInterval
          (channel.available (channel.now world).2).2)).1 := by
        rw [hlast, hnow'.time, htime]
        exact hover
      exact ⟨"", _, Console.collect_yields_silent hbefore hcount
        (Console.collect_yields_elapsed hreached), havailable.ready, hsilent,
        hpolled.time ▸ hearly, hpolled.time ▸ hover⟩
    · obtain ⟨text, asleep, hcollect, hasleep⟩ :=
        h.collect_yields deadline (used + 1) hslept (by omega)
      exact ⟨text, asleep, Console.collect_yields_silent hbefore hcount hcollect, hasleep⟩
  · obtain ⟨bytes, read, hread, hlength, htakes⟩ := h.readAvailable_yields havailable.ready
    have hpos : 0 < (gauge.inbox (channel.available (channel.now world).2).2).buffered.length :=
      List.length_pos_iff.mpr hsilent
    have hnoted := h.note ⟨.trace, .console, "Drained " ++ toString bytes.length ++ " bytes"⟩
      htakes.ready
    have hround := (hpolled.trans htakes).trans hnoted
    obtain ⟨text, asleep, hcollect, hasleep⟩ :=
      h.collect_yields deadline (used + 1) hnoted.ready (hround.time ▸ hearly)
    exact ⟨Utf8.text bytes ++ text, asleep,
      Console.collect_yields_received hbefore hcount hpos hread hcollect, hasleep⟩
  -- a poll that sleeps brings the deadline closer, one that reads leaves less outstanding
  termination_by (deadline - gauge.time world, gauge.outstanding world)
  decreasing_by
    · have hpoll : 0 < Console.pollInterval.nanoseconds := by decide
      refine Prod.Lex.left _ _ ?_
      omega
    · have hless := hround.outstanding_le
      rw [hround.time]
      refine Prod.Lex.right _ ?_
      simp only [List.nil_append, List.append_nil] at hless
      omega

end Channel.Steady

namespace Gauge

variable {gauge : Gauge ω} {start : ω} {world : ω × List Effect}

-- What was recorded since the start agrees with what became of the world: as much time went by as the
-- sleeps took, and the bytes that the reads placed are gone from the buffer.
structure Ledger (gauge : Gauge ω) (start : ω) (world : ω × List Effect) : Prop where
  ready : gauge.Ready world.1
  time : gauge.time world.1 = gauge.time start +
    world.2.count (.sleep Console.pollInterval) * Console.pollInterval.nanoseconds
  passes : ∃ arrivals, (gauge.inbox start).Passes (placed world.2) arrivals (gauge.inbox world.1)
  keeps : ∀ effect ∈ world.2, effect.Keeps

theorem ledger_start (h : gauge.Ready start) : gauge.Ledger start (start, []) where
  ready := h
  time := by rw [List.count_nil, Nat.zero_mul, Nat.add_zero]
  passes := ⟨[], .refl _⟩
  keeps := List.forall_mem_nil _

-- The ledger is kept by effects that are no sleeps and place what is taken.
theorem Ledger.takes {first : Bytes} {after : ω} (h : gauge.Ledger start world)
    (htakes : gauge.Takes first world.1 after) {effects : List Effect}
    (hplaced : placed effects = first) (hkeeps : ∀ effect ∈ effects, effect.Keeps)
    (hawake : effects.count (.sleep Console.pollInterval) = 0) :
    gauge.Ledger start (after, world.2 ++ effects) where
  ready := htakes.ready
  time := by rw [List.count_append, hawake, Nat.add_zero, htakes.time, h.time]
  passes := by
    obtain ⟨early, hearly⟩ := h.passes
    obtain ⟨late, hlate, _⟩ := htakes.passes
    refine ⟨early ++ late, ?_⟩
    rw [placed_append, hplaced]
    exact hearly.trans hlate
  keeps := List.forall_mem_append.mpr ⟨h.keeps, hkeeps⟩

theorem Ledger.sleeps {arrivals : Bytes} {after : ω} (h : gauge.Ledger start world)
    (hready : gauge.Ready after)
    (htime : gauge.time after = gauge.time world.1 + Console.pollInterval.nanoseconds)
    (hpasses : (gauge.inbox world.1).Passes [] arrivals (gauge.inbox after)) :
    gauge.Ledger start (after, world.2 ++ [.sleep Console.pollInterval]) where
  ready := hready
  time := by
    rw [List.count_append, List.count_singleton_self, Nat.succ_mul, htime, h.time, Nat.add_assoc]
  passes := by
    obtain ⟨early, hearly⟩ := h.passes
    refine ⟨early ++ arrivals, ?_⟩
    rw [placed_append]
    exact hearly.trans hpasses
  keeps := List.forall_mem_append.mpr ⟨h.keeps, List.forall_mem_singleton.mpr trivial⟩

def recorded (gauge : Gauge ω) (start : ω) : Gauge (ω × List Effect) where
  Ready := gauge.Ledger start
  time world := gauge.time world.1
  inbox world := gauge.inbox world.1
  toCome world := gauge.toCome world.1
  interruptions world := gauge.interruptions world.1

theorem Ledger.takes_recorded {first : Bytes} {after : ω} (h : gauge.Ledger start world)
    (effects : List Effect) (htakes : gauge.Takes first world.1 after) (hplaced : placed effects = first)
    (hkeeps : ∀ effect ∈ effects, effect.Keeps)
    (hawake : effects.count (.sleep Console.pollInterval) = 0) :
    (gauge.recorded start).Takes first world (after, world.2 ++ effects) :=
  ⟨h.takes htakes hplaced hkeeps hawake, htakes.time, htakes.passes⟩

end Gauge

-- A steady channel keeps the ledger of what it records.
theorem Channel.Steady.recorded {channel : Channel ω} {gauge : Gauge ω} (h : channel.Steady gauge)
    (start : ω) : channel.recorded.Steady (gauge.recorded start) where
  now hledger := by
    obtain ⟨hreading, htakes⟩ := h.now hledger.ready
    exact ⟨hreading, hledger.takes_recorded [_] htakes rfl (List.forall_mem_singleton.mpr trivial) rfl⟩
  available hledger := by
    obtain ⟨hcount, htakes⟩ := h.available hledger.ready
    exact ⟨hcount, hledger.takes_recorded [_] htakes rfl (List.forall_mem_singleton.mpr trivial) rfl⟩
  supplies := by
    constructor
    intro world room (hledger : gauge.Ledger start world) hpos hroom
    rcases h.supplies.read hledger.ready hpos hroom with
      ⟨fault, hfault, hinterruption, htakes, hless⟩ | ⟨first, hfirst, hlength, hle, htakes⟩
    · have htakes := hledger.takes_recorded [.read room (.error fault)] htakes rfl
        (List.forall_mem_singleton.mpr trivial) rfl
      rw [← hfault] at htakes
      exact .inl ⟨fault, hfault, hinterruption, htakes, hless⟩
    · have htakes := hledger.takes_recorded [.read room (.ok ⟨first, first.length⟩)] htakes
        (List.append_nil first) (List.forall_mem_singleton.mpr ⟨rfl, hle⟩) rfl
      rw [← hfirst] at htakes
      exact .inr ⟨first, hfirst, hlength, hle, htakes⟩
  sleep hledger := by
    obtain ⟨hready, htime, arrivals, hpasses⟩ := h.sleep hledger.ready
    exact ⟨hledger.sleeps hready htime hpasses, htime, arrivals, hpasses⟩
  note record hledger := by
    have htakes := hledger.takes_recorded [] (h.note record hledger.ready) rfl
      (List.forall_mem_nil _) rfl
    rwa [List.append_nil] at htakes

end BoardSmoke
