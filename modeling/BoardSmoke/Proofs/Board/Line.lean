import BoardSmoke.Proofs.Board.Answers
import BoardSmoke.Proofs.Recording.Writing
import BoardSmoke.Proofs.Rounds

namespace BoardSmoke

-- A board's parameters, what it sent that has not arrived yet, and what has arrived and was not read.
structure Line where
  parameters : Parameters
  underway : Bytes
  arrived : Bytes

namespace Line

variable {echo : Bool} {line a b c : Line}

def unread (line : Line) : Bytes := line.arrived ++ line.underway

-- What an effect may come to. A board answers every line that is written; a check counts what has
-- arrived; a read takes some of it or fails; a reset loses it, and the board may say something then.
inductive Step (echo : Bool) : Line → Effect → Line → Prop
  | answered {parameters after : Parameters} {underway arrived answer : Bytes} {command : String}
      (h : Answers echo parameters command answer after) :
      Step echo ⟨parameters, underway, arrived⟩ (.write (Utf8.bytes (command ++ "\n")) (.ok ()))
        ⟨after, underway ++ answer, arrived⟩
  | counted {line : Line} : Step echo line (.available (.ok line.arrived.length)) line
  | taken {parameters : Parameters} {underway first later : Bytes} {room : Nat}
      (hroom : first.length ≤ room) :
      Step echo ⟨parameters, underway, first ++ later⟩ (.read room (.ok ⟨first, first.length⟩))
        ⟨parameters, underway, later⟩
  | missed {line : Line} {room : Nat} {fault : Fault} :
      Step echo line (.read room (.error fault)) line
  | discarded {parameters : Parameters} {underway arrived said : Bytes} :
      Step echo ⟨parameters, underway, arrived⟩ (.reset (.ok ()))
        ⟨parameters, underway ++ said, []⟩
  | aside {line : Line} {effect : Effect} (h : effect.isAside = true) : Step echo line effect line

-- The line before and after some effects. Between any two of them something may arrive.
inductive Run (echo : Bool) : Line → List Effect → Line → Prop
  | done {line : Line} : Run echo line [] line
  | delivered {parameters : Parameters} {first later arrived : Bytes} {effects : List Effect}
      {after : Line} (h : Run echo ⟨parameters, later, arrived ++ first⟩ effects after) :
      Run echo ⟨parameters, first ++ later, arrived⟩ effects after
  | step {before next after : Line} {effect : Effect} {effects : List Effect}
      (h : Step echo before effect next) (hlater : Run echo next effects after) :
      Run echo before (effect :: effects) after

theorem run_append_iff {before later : List Effect} :
    Run echo a (before ++ later) c ↔ ∃ b, Run echo a before b ∧ Run echo b later c := by
  constructor
  · intro h
    generalize heffects : before ++ later = effects at h
    induction h generalizing before with
    | done =>
        obtain ⟨rfl, rfl⟩ := List.append_eq_nil_iff.mp heffects
        exact ⟨_, .done, .done⟩
    | delivered _ ih =>
        obtain ⟨b, hbefore, hlater⟩ := ih heffects
        exact ⟨b, .delivered hbefore, hlater⟩
    | step hstep hrest ih =>
        cases before with
        | nil =>
            cases heffects
            exact ⟨_, .done, .step hstep hrest⟩
        | cons effect before =>
            cases heffects
            obtain ⟨b, hbefore, hlater⟩ := ih rfl
            exact ⟨b, .step hstep hbefore, hlater⟩
  · rintro ⟨b, hbefore, hlater⟩
    induction hbefore with
    | done => exact hlater
    | delivered _ ih => exact .delivered (ih hlater)
    | step hstep _ ih => exact .step hstep (ih hlater)

theorem Run.append {before later : List Effect} (h : Run echo a before b)
    (hlater : Run echo b later c) : Run echo a (before ++ later) c :=
  run_append_iff.mpr ⟨b, h, hlater⟩

theorem Run.andThen {ε α β : Type} {first : Course ε α} {next : α → Course ε β}
    {effects : List Effect} {value : β} (h : Run echo a effects c)
    (hcourse : first.andThen next effects (.ok value)) :
    ∃ x before later b, effects = before ++ later ∧ first before (.ok x) ∧ Run echo a before b ∧
      next x later (.ok value) ∧ Run echo b later c := by
  obtain ⟨x, before, later, hfirst, hnext, rfl⟩ := Course.andThen_ok_iff.mp hcourse
  obtain ⟨b, hbefore, hlater⟩ := run_append_iff.mp h
  exact ⟨x, before, later, b, rfl, hfirst, hbefore, hnext, hlater⟩

-- Arriving changes neither the parameters nor what is to be read.
theorem Run.of_nil (h : Run echo a [] b) : b.parameters = a.parameters ∧ b.unread = a.unread := by
  generalize heffects : ([] : List Effect) = effects at h
  induction h with
  | done => exact ⟨rfl, rfl⟩
  | delivered _ ih =>
      obtain ⟨hparameters, hunread⟩ := ih heffects
      exact ⟨hparameters, by rw [hunread]; simp [unread]⟩
  | step _ _ _ => cases heffects

theorem Run.of_cons {effect : Effect} {effects : List Effect} (h : Run echo a (effect :: effects) c) :
    ∃ a' b, a'.parameters = a.parameters ∧ a'.unread = a.unread ∧ Step echo a' effect b ∧
      Run echo b effects c := by
  generalize heffects : effect :: effects = all at h
  induction h with
  | done => cases heffects
  | delivered _ ih =>
      obtain ⟨a', b, hparameters, hunread, hstep, hlater⟩ := ih heffects
      exact ⟨a', b, hparameters, by rw [hunread]; simp [unread], hstep, hlater⟩
  | step hstep hlater _ =>
      cases heffects
      exact ⟨_, _, rfl, rfl, hstep, hlater⟩

-- The board changes its parameters when a line is written, and at no other time.
theorem Run.parameters_eq {effects : List Effect} (h : Run echo a effects b)
    (hsilent : attempted effects = []) : b.parameters = a.parameters := by
  induction h with
  | done => rfl
  | delivered _ ih => exact ih hsilent
  | step hstep _ ih =>
      cases hstep with
      | answered => cases hsilent
      | counted => exact ih hsilent
      | taken _ => exact ih hsilent
      | missed => exact ih hsilent
      | discarded => exact ih hsilent
      | aside h =>
          refine ih ?_
          rw [attempted, List.filterMap_cons] at hsilent
          split at hsilent
          · exact hsilent
          · cases hsilent

-- What was read and what is still to be read is what was to be read before.
theorem Run.filling {buffer bytes : Bytes} {effects : List Effect} (h : Run echo a effects b)
    (hfilling : Channel.Filling buffer effects (.ok bytes)) :
    bytes ++ b.unread = a.unread := by
  generalize hresult : (.ok bytes : Except (Stop Fault) Bytes) = result at hfilling
  induction hfilling generalizing a bytes with
  | full =>
      cases hresult
      exact h.of_nil.2
  | @nothing buffer reading _ hcount =>
      cases hresult
      obtain ⟨a', b', _, hunread, hstep, hlater⟩ := h.of_cons
      cases hstep with
      | @taken parameters underway first later _ _ =>
          obtain rfl : first = [] := List.eq_nil_of_length_eq_zero hcount
          exact hlater.of_nil.2.trans hunread
      | aside h => cases h
  | @part buffer reading later rest _ _ _ ih =>
      obtain ⟨a', b', _, hunread, hstep, hlater⟩ := h.of_cons
      cases rest with
      | error stop => cases hresult
      | ok rest =>
          cases hresult
          cases hstep with
          | @taken parameters underway first arrived _ hroom =>
              rw [Channel.take_overlay hroom, List.append_assoc, ih hlater rfl, ← hunread]
              simp [unread]
          | aside h => cases h
  | timedOut _ _ =>
      cases hresult
      obtain ⟨a', b', _, hunread, hstep, hlater⟩ := h.of_cons
      cases hstep with
      | missed => exact hlater.of_nil.2.trans hunread
      | aside h => cases h
  | interrupted _ _ _ ih =>
      obtain ⟨a', b', _, hunread, hstep, hlater⟩ := h.of_cons
      cases hstep with
      | missed => exact (ih hlater hresult).trans hunread
      | aside h => cases h
  | failed _ _ _ => cases hresult
  | unfinished _ => cases hresult

theorem Run.reading {bytes : Bytes} {effects : List Effect} (h : Run echo a effects b)
    (hreading : Channel.reading effects (.ok bytes)) :
    bytes ++ b.unread = a.unread := by
  obtain ⟨pending, _, later, ⟨outcome, rfl, hok⟩, hfilling, rfl⟩ := Course.andThen_ok_iff.mp hreading
  obtain ⟨a', b', _, hunread, hstep, hlater⟩ := h.of_cons
  cases hstep with
  | counted => exact (hlater.filling hfilling).trans hunread
  | aside h => cases h

theorem Step.answer {command : String} {outcome : Except Fault Unit}
    (h : Step echo a (.write (Utf8.bytes (command ++ "\n")) outcome) b) :
    ∃ answer, Answers echo a.parameters command answer b.parameters ∧
      b.unread = a.unread ++ answer := by
  generalize hline : Utf8.bytes (command ++ "\n") = line at h
  cases h with
  | answered hanswer =>
      obtain rfl := Console.line_injective hline
      exact ⟨_, hanswer, (List.append_assoc _ _ _).symm⟩
  | aside h => cases h

-- A command is answered, and the response to it is what was to be read before and of the answer,
-- less what is still to be read.
theorem Run.asking {command response : String} {settle : Duration} {effects : List Effect}
    (h : Run echo a effects b) (hasking : SmokeTest.asking command settle effects (.ok response)) :
    ∃ answer heard, Answers echo a.parameters command answer b.parameters ∧
      response = Utf8.text heard ∧ heard ++ b.unread = a.unread ++ answer := by
  have hexchange := Course.mapError_ok_iff.mp hasking
  obtain ⟨_, _, _, ⟨outcome, rfl, hok⟩, hsettling, rfl⟩ := Course.andThen_ok_iff.mp hexchange
  obtain ⟨rest, rfl, hlater⟩ := Course.act_andThen_iff.mp hsettling
  obtain ⟨heard, reads, _, hreading, ⟨rfl, hresponse⟩, rfl⟩ := Course.andThen_ok_iff.mp hlater
  rw [List.append_nil] at h
  obtain ⟨a', b', hparameters, hunread, hstep, hrest⟩ := h.of_cons
  obtain ⟨answer, hanswer, hanswered⟩ := hstep.answer
  obtain ⟨c, d, hparameters', hunread', haside, hreads⟩ := hrest.of_cons
  cases haside with
  | aside _ =>
      have hheard := hreads.reading hreading
      have hsilent : attempted reads = [] := Channel.reading_writes.attempted_eq_nil hreading
      refine ⟨answer, heard, ?_, (Except.ok.inj hresponse), ?_⟩
      · rw [← hparameters, hreads.parameters_eq hsilent, hparameters']
        exact hanswer
      · rw [hheard, hunread', hanswered, hunread]

-- The effects of asking a command, when `heard` is what has arrived by then.
def exchanged (command : String) (settle : Duration) (heard : Bytes) : List Effect :=
  [.write (Utf8.bytes (command ++ "\n")) (.ok ()), .sleep settle, .available (.ok heard.length),
    .read heard.length (.ok ⟨heard, heard.length⟩)]

-- Any part of what is still to come can be heard.
theorem run_exchanged {parameters after : Parameters} {underway answer heard later : Bytes}
    {command : String} (settle : Duration) (hanswer : Answers echo parameters command answer after)
    (hbytes : underway ++ answer = heard ++ later) :
    Run echo ⟨parameters, underway, []⟩ (exchanged command settle heard) ⟨after, later, []⟩ := by
  refine .step (.answered hanswer) (.step (.aside rfl) ?_)
  rw [hbytes]
  refine .delivered (.step .counted ?_)
  have htaken : Step echo ⟨after, later, heard ++ []⟩
      (.read heard.length (.ok ⟨heard, heard.length⟩)) ⟨after, later, []⟩ :=
    .taken (Nat.le_refl _)
  rw [List.append_nil] at htaken
  exact .step htaken .done

end Line

end BoardSmoke
