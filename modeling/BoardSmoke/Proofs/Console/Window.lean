import BoardSmoke.Proofs.Console.Gauge
import BoardSmoke.Proofs.Recording.Window

namespace BoardSmoke

open Session

variable {ω : Type}

namespace Console

-- The window is waited for in sleeps. `asleep` is when the last one begins.
structure Waited (channel : Channel ω) (gauge : Gauge ω) (window : Duration) (world : ω)
    (asleep after : ω × List Effect) : Prop where
  woken : after = (channel.recorded.now (channel.recorded.sleep pollInterval asleep)).2
  -- There are as few of them as cover the window.
  sleeps : after.2.count (.sleep pollInterval) =
    (window.nanoseconds + pollInterval.nanoseconds - 1) / pollInterval.nanoseconds
  reached : gauge.time world + window.nanoseconds ≤ gauge.time after.1
  overrun : gauge.time after.1 < gauge.time world + window.nanoseconds + pollInterval.nanoseconds
  -- What is there when the last one begins is read.
  read : ∃ arrivals,
    (gauge.inbox asleep.1).arrived = (gauge.inbox world).arrived ++ arrivals ∧
    placed after.2 = (gauge.inbox world).buffered ++ arrivals
  -- What arrives from then on stays.
  left : (gauge.inbox after.1).arrived =
    (gauge.inbox asleep.1).arrived ++ (gauge.inbox after.1).buffered
  keeps : ∀ effect ∈ after.2, effect.Keeps

-- The clock is looked at twice, and nothing else is done.
structure AtOnce (gauge : Gauge ω) (world : ω) (after : ω × List Effect) : Prop where
  effects : after.2 = [.now (gauge.time world), .now (gauge.time world)]
  takes : gauge.Takes [] world after.1

end Console

namespace Channel.Steady

variable {channel : Channel ω} {gauge : Gauge ω} {window : Duration} {world : ω}

theorem waited (h : channel.Steady gauge) {asleep : ω × List Effect}
    (hasleep : gauge.Ledger world asleep) (hempty : (gauge.inbox asleep.1).buffered = [])
    (hearly : gauge.time asleep.1 < gauge.time world + window.nanoseconds)
    (hlate : gauge.time world + window.nanoseconds ≤
      gauge.time asleep.1 + Console.pollInterval.nanoseconds) :
    Console.Waited channel gauge window world asleep
      (channel.recorded.now (channel.recorded.sleep Console.pollInterval asleep)).2 := by
  obtain ⟨hslept, hpassed, late, hsleep⟩ := (h.recorded world).sleep hasleep
  obtain ⟨_, hlast⟩ := (h.recorded world).now hslept
  have htime : gauge.time (channel.recorded.now
      (channel.recorded.sleep Console.pollInterval asleep)).2.1 =
        gauge.time asleep.1 + Console.pollInterval.nanoseconds := hlast.time.trans hpassed
  refine ⟨rfl, ?_, by omega, by omega, ?_, ?_, Gauge.Ledger.keeps hlast.ready⟩
  · have hcount := Gauge.Ledger.time hlast.ready
    rw [htime] at hcount
    refine (Nat.div_eq_of_lt_le ?_ ?_).symm
    · omega
    · rw [Nat.succ_mul]
      omega
  · obtain ⟨arrivals, harrivals⟩ := hasleep.passes
    refine ⟨arrivals, harrivals.arrived, ?_⟩
    rw [← harrivals.taken_eq hempty]
    simp [Channel.recorded, Effect.recording, Effect.recordingChange, placed, Effect.placed]
  · obtain ⟨later, hlater, _⟩ := hlast.passes
    exact (hsleep.trans hlater).arrived_eq hempty

theorem drain_waits (h : channel.Steady gauge) (hready : gauge.Ready world)
    (hwindow : 0 < window.nanoseconds)
    (hreached : gauge.time world + window.nanoseconds < Clock.limit) :
    ∃ text asleep after, Yields
      (fun patience => Console.drain (channel.patient patience).recorded window) (world, []) text
      after ∧ Console.Waited channel gauge window world asleep after := by
  have hsteady := h.recorded world
  obtain ⟨hreading, hnow⟩ := hsteady.now (Gauge.ledger_start hready)
  have hstart : (channel.recorded.now (world, [])).1 = gauge.time world := hreading.trans hnow.time
  have hearly : (gauge.recorded world).time (channel.recorded.now (world, [])).2 <
      gauge.time world + window.nanoseconds := by
    rw [hnow.time]
    exact Nat.lt_add_of_pos_right hwindow
  obtain ⟨text, asleep, hcollect, hasleep, hempty, hearly', hlate⟩ :=
    hsteady.collect_yields (gauge.time world + window.nanoseconds) 0 hnow.ready hearly
  refine ⟨text, asleep, _, (yields_query channel.recorded.now (world, [])).bind ?_,
    h.waited hasleep hempty hearly' hlate⟩
  simp only [hstart, Clock.deadline?_of_lt hreached]
  exact hcollect

theorem drain_at_once (h : channel.Steady gauge) (hready : gauge.Ready world)
    (hwindow : window.nanoseconds = 0) (hreached : gauge.time world < Clock.limit) :
    ∃ after, Yields
      (fun patience => Console.drain (channel.patient patience).recorded window) (world, []) ""
      after ∧ Console.AtOnce gauge world after := by
  obtain ⟨hreading, hnow⟩ := h.now hready
  obtain ⟨hreading', hnow'⟩ := h.now hnow.ready
  have hstart : (channel.now world).1 = gauge.time world := hreading.trans hnow.time
  have hlast : (channel.now (channel.now world).2).1 = gauge.time world :=
    hreading'.trans (hnow'.time.trans hnow.time)
  refine ⟨(channel.recorded.now (channel.recorded.now (world, [])).2).2,
    (yields_query channel.recorded.now (world, [])).bind ?_, ?_, hnow.trans hnow'⟩
  · have hdeadline : Clock.deadline? (channel.recorded.now (world, [])).1 window =
        some (gauge.time world) := by
      have hlimit : gauge.time world + window.nanoseconds < Clock.limit := by
        rwa [hwindow, Nat.add_zero]
      rw [show (channel.recorded.now (world, [])).1 = gauge.time world from hstart,
        Clock.deadline?_of_lt hlimit, hwindow, Nat.add_zero]
    have hover : gauge.time world ≤
        (channel.recorded.now (channel.recorded.now (world, [])).2).1 := Nat.le_of_eq hlast.symm
    have hcollect : Yields (fun patience => Console.collect (channel.recorded.patient patience)
        (gauge.time world) (patience - 0)) _ _ _ := Console.collect_yields_elapsed hover
    simp only [hdeadline]
    exact hcollect
  · simp [Channel.recorded, Effect.recording, hstart, hlast]

end Channel.Steady

-- A channel that is fed a portion in each sleep. Reads take all that there is room for.
structure Feed where
  time : Nat
  inbox : Inbox
  portions : List Bytes

namespace Feed

def slept (feed : Feed) (duration : Duration) : Feed where
  time := feed.time + duration.nanoseconds
  inbox := ⟨feed.inbox.arrived ++ feed.portions.headD [],
    feed.inbox.buffered ++ feed.portions.headD []⟩
  portions := feed.portions.tail

def channel (patience : Nat) : Channel Feed where
  note _ feed := feed
  now feed := (feed.time, feed)
  sleep duration feed := feed.slept duration
  write _ feed := (.ok (), feed)
  available feed := (.ok feed.inbox.buffered.length, feed)
  read room feed :=
    (.ok ⟨feed.inbox.buffered.take room, (feed.inbox.buffered.take room).length⟩,
      { feed with inbox := ⟨feed.inbox.arrived, feed.inbox.buffered.drop room⟩ })
  reset feed := (.ok (), feed)
  close feed := feed
  patience := patience

def gauge : Gauge Feed where
  Ready _ := True
  time feed := feed.time
  inbox feed := feed.inbox
  toCome _ := 0
  interruptions _ := 0

theorem channel_steady (patience : Nat) : (channel patience).Steady gauge where
  now h := ⟨rfl, Gauge.takes_nothing h⟩
  available h := ⟨rfl, Gauge.takes_nothing h⟩
  supplies := by
    constructor
    intro feed room h hpos hroom
    have hlength : (feed.inbox.buffered.take room).length = room := List.length_take_of_le hroom
    refine .inr ⟨feed.inbox.buffered.take room, rfl, by omega, by omega, h, rfl, [], ?_,
      Nat.le_refl _⟩
    exact ⟨(List.append_nil _).symm, by simp [gauge, channel]⟩
  sleep {feed} h := ⟨h, rfl, feed.portions.headD [], rfl, rfl⟩
  note _ h := Gauge.takes_nothing h

end Feed

namespace Console

-- Whatever the channel does, a drain ends well only after a look at the clock at or past the end of its
-- window, and fails only as an operation does or because there is no such end. If only sleeps advance
-- the clock, they are as few as cover the window, and what arrives before the last one is read. Without
-- a window nothing is read, also not what is there.
theorem drain_covers_window (channel : Channel ω) (window : Duration) (world : ω) :
    (∃ start effects,
      (drain channel.recorded window).runIn (world, []) =
        (((drain channel window).runIn world).1, ((drain channel window).runIn world).2,
          .now start :: effects) ∧
      Covers start window channel.patience effects ((drain channel window).runIn world).1) ∧
    ∀ gauge : Gauge ω, channel.Steady gauge → gauge.Ready world →
      gauge.time world + window.nanoseconds < Clock.limit →
      ∃ text after, Yields (fun patience => drain (channel.patient patience).recorded window)
        (world, []) text after ∧
        (0 < window.nanoseconds → ∃ asleep, Waited channel gauge window world asleep after) ∧
        (window.nanoseconds = 0 → AtOnce gauge world after) := by
  constructor
  · obtain ⟨effects, hrun, hcourse⟩ := drain_records_covers channel window world []
    obtain ⟨start, later, rfl, hcovers⟩ := Course.query_andThen_iff.mp hcourse
    exact ⟨start, later, hrun, hcovers⟩
  · intro gauge h hready hreached
    rcases Nat.eq_zero_or_pos window.nanoseconds with hzero | hpos
    · obtain ⟨after, hyields, hafter⟩ := h.drain_at_once hready hzero (by omega)
      exact ⟨"", after, hyields, fun hpos => absurd hpos (by omega), fun _ => hafter⟩
    · obtain ⟨text, asleep, after, hyields, hafter⟩ := h.drain_waits hready hpos hreached
      exact ⟨text, after, hyields, fun _ => ⟨asleep, hafter⟩, fun hzero => absurd hzero (by omega)⟩

-- Of what arrives while a quarter of a second is waited for, the last portion stays.
theorem feed_covers_window :
    let feed : Feed := ⟨0, ⟨[], []⟩, [[0x62], [0x6F], [0x74]]⟩
    let window : Duration := .ofMilliseconds 250
    ∃ text after, Yields
      (fun patience => drain ((Feed.channel 0).patient patience).recorded window) (feed, []) text
      after ∧ ∃ asleep, Waited (Feed.channel 0) Feed.gauge window feed asleep after := by
  intro feed window
  obtain ⟨text, after, hyields, hafter, _⟩ := (drain_covers_window (Feed.channel 0) window feed).2
    Feed.gauge (Feed.channel_steady 0) trivial (by decide)
  exact ⟨text, after, hyields, hafter (by decide)⟩

-- What is buffered at the start is not always read.
theorem drain_not_always_reads_buffered :
    ¬∀ (feed : Feed) (window : Duration), feed.time + window.nanoseconds < Clock.limit →
      ∃ text after, Yields
        (fun patience => drain ((Feed.channel 0).patient patience).recorded window) (feed, []) text
        after ∧ ∃ arrivals, placed after.2 = feed.inbox.buffered ++ arrivals := by
  intro h
  let feed : Feed := ⟨0, ⟨[0x61], [0x61]⟩, []⟩
  obtain ⟨text, after, hyields, arrivals, hread⟩ := h feed .zero (by decide)
  obtain ⟨after', hyields', hafter⟩ := (Feed.channel_steady 0).drain_at_once
    (show Feed.gauge.Ready feed from trivial) (show Duration.zero.nanoseconds = 0 from rfl)
    (by decide)
  obtain ⟨_, rfl⟩ := hyields.unique hyields'
  rw [hafter.effects] at hread
  cases hread

end Console

end BoardSmoke
