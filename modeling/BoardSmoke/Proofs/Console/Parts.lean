import BoardSmoke.Proofs.Console.Window
import BoardSmoke.Proofs.Text.Parts

namespace BoardSmoke

open Session

variable {ω : Type}

theorem heardBytes_map_heard (parts : List Bytes) : heardBytes (parts.map .heard) = parts.flatten := by
  induction parts with
  | nil => rfl
  | cons part parts ih =>
      rw [List.flatten_cons, ← ih]
      rfl

namespace Console

-- The text was heard in these parts. It is the text of the whole exactly if they cut no character apart.
structure HeardIn (parts : List Bytes) (effects : List Effect) (text : String) : Prop where
  heard : Transcript effects (parts.map .heard)
  -- The parts make up what the reads delivered.
  delivered : (∀ effect ∈ effects, effect.Keeps) → placed effects = parts.flatten
  joined : text = String.join (parts.map Utf8.text)
  whole : text = Utf8.text parts.flatten ↔ Utf8.cutsApart parts = false

theorem heardIn_of_draining {window : Duration} {effects : List Effect} {text : String}
    (h : draining window effects (.ok text)) : ∃ parts, HeardIn parts effects text := by
  obtain ⟨parts, rfl, hparts⟩ := transcript_of_draining h
  refine ⟨parts, hparts, fun hkeeps => ?_, rfl, Utf8.join_text_eq_iff parts⟩
  rw [hparts.placed_eq hkeeps, heardBytes_map_heard]

theorem draining_of_yields {channel : Channel ω} {window : Duration} {world : ω} {text : String}
    {after : ω × List Effect}
    (h : Yields (fun patience => drain (channel.patient patience).recorded window) (world, []) text
      after) : draining window after.2 (.ok text) := by
  obtain ⟨enough, hrun⟩ := h
  obtain ⟨effects, hrecorded, hcourse⟩ :=
    drain_records (channel.patient enough) window world []
  rw [hrun enough (Nat.le_refl _), List.nil_append] at hrecorded
  generalize (drain (channel.patient enough) window).runIn world = plain at hrecorded hcourse
  obtain ⟨result, final⟩ := plain
  cases hrecorded
  exact hcourse

-- Whatever the channel does, a text that is drained is the text of all the bytes exactly if no part ends
-- inside of a character that the next ones go on with. If only sleeps advance the clock, there is a text,
-- and the bytes are those that are there at the start or arrive before the last sleep.
theorem drain_text_whole_iff (channel : Channel ω) (window : Duration) (world : ω) :
    (∃ effects,
      (drain channel.recorded window).runIn (world, []) =
        (((drain channel window).runIn world).1, ((drain channel window).runIn world).2, effects) ∧
      ∀ text, ((drain channel window).runIn world).1 = .ok text →
        ∃ parts, HeardIn parts effects text) ∧
    ∀ gauge : Gauge ω, channel.Steady gauge → gauge.Ready world → 0 < window.nanoseconds →
      gauge.time world + window.nanoseconds < Clock.limit →
      ∃ text asleep after parts arrivals, Yields
        (fun patience => drain (channel.patient patience).recorded window) (world, []) text after ∧
        HeardIn parts after.2 text ∧ Waited channel gauge window world asleep after ∧
        (gauge.inbox asleep.1).arrived = (gauge.inbox world).arrived ++ arrivals ∧
        parts.flatten = (gauge.inbox world).buffered ++ arrivals := by
  constructor
  · obtain ⟨effects, hrun, hcourse⟩ := drain_records channel window world []
    refine ⟨effects, hrun, fun text htext => ?_⟩
    rw [htext] at hcourse
    exact heardIn_of_draining hcourse
  · intro gauge h hready hwindow hreached
    obtain ⟨text, asleep, after, hyields, hwaited⟩ := h.drain_waits hready hwindow hreached
    obtain ⟨parts, hparts⟩ := heardIn_of_draining (draining_of_yields hyields)
    obtain ⟨arrivals, harrived, hread⟩ := hwaited.read
    exact ⟨text, asleep, after, parts, arrivals, hyields, hparts, hwaited, harrived,
      (hparts.delivered hwaited.keeps).symm.trans hread⟩

-- The euro sign arrives in two parts, and something behind it in the last sleep.
theorem feed_heard_in_parts :
    let feed : Feed := ⟨0, ⟨[], []⟩, [[0xE2], [0x82, 0xAC], [0x21]]⟩
    let window : Duration := .ofMilliseconds 300
    ∃ text after parts, Yields
      (fun patience => drain ((Feed.channel 0).patient patience).recorded window) (feed, []) text
      after ∧ HeardIn parts after.2 text := by
  intro feed window
  obtain ⟨text, _, after, parts, _, hyields, hparts, _⟩ :=
    (drain_text_whole_iff (Feed.channel 0) window feed).2 Feed.gauge (Feed.channel_steady 0) trivial
      (by decide) (by decide)
  exact ⟨text, after, parts, hyields, hparts⟩

-- A character that arrives in two parts is lost.
theorem drain_not_always_whole :
    ¬∀ portions : List Bytes, portions.length < 4 →
      ((drain (Feed.channel 9) (.ofMilliseconds 400)).runIn ⟨0, ⟨[], []⟩, portions⟩).1 =
        .ok (Utf8.text portions.flatten) := by
  intro h
  have hcut : ((drain (Feed.channel 9) (.ofMilliseconds 400)).runIn
      ⟨0, ⟨[], []⟩, [[0xE2], [0x82, 0xAC]]⟩).1 ≠ .ok (Utf8.text [0xE2, 0x82, 0xAC]) := by
    decide
  exact hcut (h [[0xE2], [0x82, 0xAC]] (by decide))

end Console

end BoardSmoke
