import BoardSmoke.Proofs.Recording.Parts
import BoardSmoke.Proofs.Rounds

namespace BoardSmoke

inductive Utterance where
  | said (line : Bytes)
  | heard (bytes : Bytes)
  deriving DecidableEq

def Utterance.heardBytes : Utterance → Bytes
  | .said _ => []
  | .heard bytes => bytes

def heardBytes (utterances : List Utterance) : Bytes := utterances.flatMap Utterance.heardBytes

-- The effects are those of some lines and readings, in order. In between, the channel may be polled,
-- and there may be effects that have nothing to do with what it carries.
inductive Transcript : List Effect → List Utterance → Prop
  | done : Transcript [] []
  | said {line : Bytes} {outcome : Except Fault Unit} {later : List Effect} {utterances : List Utterance}
      (hlater : Transcript later utterances) :
      Transcript (.write line outcome :: later) (.said line :: utterances)
  | heard {reads later : List Effect} {bytes : Bytes} {utterances : List Utterance}
      (hreads : Channel.reading reads (.ok bytes)) (hlater : Transcript later utterances) :
      Transcript (reads ++ later) (.heard bytes :: utterances)
  | polled {pending : Nat} {later : List Effect} {utterances : List Utterance}
      (hlater : Transcript later utterances) :
      Transcript (.available (.ok pending) :: later) utterances
  | aside {effect : Effect} {later : List Effect} {utterances : List Utterance}
      (heffect : effect.isAside = true) (hlater : Transcript later utterances) :
      Transcript (effect :: later) utterances

theorem Transcript.append {before later : List Effect} {first second : List Utterance}
    (h : Transcript before first) (hlater : Transcript later second) :
    Transcript (before ++ later) (first ++ second) := by
  induction h with
  | done => exact hlater
  | said _ ih => exact .said ih
  | heard hreads _ ih =>
      rw [List.append_assoc]
      exact .heard hreads ih
  | polled _ ih => exact .polled ih
  | aside heffect _ ih => exact .aside heffect ih

theorem transcript_of_aside {effects : List Effect}
    (h : ∀ effect ∈ effects, effect.isAside = true) : Transcript effects [] := by
  induction effects with
  | nil => exact .done
  | cons effect effects ih =>
      rw [List.forall_mem_cons] at h
      exact .aside h.1 (ih h.2)

-- What a read put into the buffer that it was offered.
def Effect.placed : Effect → Bytes
  | .read _ (.ok reading) => reading.placed
  | _ => []

def placed (effects : List Effect) : Bytes := effects.flatMap Effect.placed

-- A read keeps to the room that it is offered and counts what it puts there.
def Effect.Keeps : Effect → Prop
  | .read room (.ok reading) =>
    reading.count = reading.placed.length ∧ reading.placed.length ≤ room
  | _ => True

theorem placed_cons (effect : Effect) (effects : List Effect) :
    placed (effect :: effects) = effect.placed ++ placed effects :=
  List.flatMap_cons

theorem placed_append (before later : List Effect) :
    placed (before ++ later) = placed before ++ placed later :=
  List.flatMap_append

theorem Channel.Filling.placed_eq {buffer bytes : Bytes} {effects : List Effect}
    (h : Filling buffer effects (.ok bytes)) (hkeeps : ∀ effect ∈ effects, effect.Keeps) :
    placed effects = bytes := by
  generalize hresult : (.ok bytes : Except (Stop Fault) Bytes) = result at h
  induction h generalizing bytes with
  | full =>
      cases hresult
      rfl
  | @nothing buffer reading _ hcount =>
      cases hresult
      have hkept : reading.count = reading.placed.length ∧ _ :=
        hkeeps _ (List.mem_singleton_self _)
      have hnone : reading.placed = [] :=
        List.eq_nil_of_length_eq_zero (hkept.1.symm.trans hcount)
      rw [placed_cons, Effect.placed, hnone]
      rfl
  | @part buffer reading later rest _ _ _ ih =>
      rw [List.forall_mem_cons] at hkeeps
      obtain ⟨hkept, hlater⟩ := hkeeps
      cases rest with
      | error stop => cases hresult
      | ok rest =>
          cases hresult
          obtain ⟨hcount, hroom⟩ : _ ∧ reading.placed.length ≤ buffer.length := hkept
          rw [placed_cons, Effect.placed, ih hlater rfl, hcount, take_overlay hroom]
  | timedOut _ _ =>
      cases hresult
      rfl
  | interrupted _ _ _ ih =>
      rw [List.forall_mem_cons] at hkeeps
      exact ih hkeeps.2 hresult
  | failed _ _ _ => cases hresult
  | unfinished _ => cases hresult

theorem Channel.placed_of_reading {bytes : Bytes} {effects : List Effect}
    (h : reading effects (.ok bytes)) (hkeeps : ∀ effect ∈ effects, effect.Keeps) :
    placed effects = bytes := by
  rcases Course.call_andThen_iff.mp h with ⟨_, _, hstop⟩ | ⟨pending, later, rfl, hfilling⟩
  · cases hstop
  · rw [List.forall_mem_cons] at hkeeps
    exact hfilling.placed_eq hkeeps.2

-- What is heard is what the reads put into their buffers, nothing of it twice and nothing left out.
theorem Transcript.placed_eq {effects : List Effect} {utterances : List Utterance}
    (h : Transcript effects utterances) (hkeeps : ∀ effect ∈ effects, effect.Keeps) :
    placed effects = heardBytes utterances := by
  induction h with
  | done => rfl
  | said _ ih =>
      rw [List.forall_mem_cons] at hkeeps
      exact ih hkeeps.2
  | heard hreads _ ih =>
      rw [List.forall_mem_append] at hkeeps
      rw [placed_append, Channel.placed_of_reading hreads hkeeps.1, ih hkeeps.2]
      rfl
  | polled _ ih =>
      rw [List.forall_mem_cons] at hkeeps
      exact ih hkeeps.2
  | @aside effect later utterances heffect _ ih =>
      rw [List.forall_mem_cons] at hkeeps
      have hnone : effect.placed = [] := by
        cases effect with
        | read room outcome => cases heffect
        | _ => rfl
      rw [placed_cons, hnone, ih hkeeps.2]
      rfl

theorem Channel.Filling.isRead {buffer : Bytes} {effects : List Effect}
    {result : Except (Stop Fault) Bytes} (h : Filling buffer effects result) :
    ∀ effect ∈ effects, ∃ room outcome, effect = .read room outcome :=
  filling_only (fun room outcome => ⟨room, outcome, rfl⟩) buffer effects result h

theorem Transcript.reset_notMem {effects : List Effect} {utterances : List Utterance}
    (h : Transcript effects utterances) {outcome : Except Fault Unit} : .reset outcome ∉ effects := by
  intro hmem
  induction h with
  | done => cases hmem
  | said _ ih => exact ih ((List.mem_cons.mp hmem).resolve_left nofun)
  | heard hreads _ ih =>
      refine (List.mem_append.mp hmem).elim (fun hread => ?_) ih
      rcases Course.call_andThen_iff.mp hreads with ⟨_, _, hstop⟩ | ⟨pending, reads, rfl, hfilling⟩
      · cases hstop
      · rcases List.mem_cons.mp hread with heq | hread
        · cases heq
        · obtain ⟨_, _, heq⟩ := hfilling.isRead _ hread
          cases heq
  | polled _ ih => exact ih ((List.mem_cons.mp hmem).resolve_left nofun)
  | aside heffect _ ih =>
      rcases List.mem_cons.mp hmem with rfl | hmem
      · cases heffect
      · exact ih hmem

namespace Console

-- What a channel is drained of is heard in parts, each of which is decoded on its own.
theorem Draining.transcript {deadline : Nat} {effects : List Effect} {text : String}
    (h : Draining deadline effects (.ok text)) :
    ∃ parts : List Bytes, text = String.join (parts.map Utf8.text) ∧
      Transcript effects (parts.map .heard) := by
  generalize hresult : (.ok text : Except (Stop Fault) String) = result at h
  induction h generalizing text with
  | elapsed _ =>
      cases hresult
      exact ⟨[], rfl, .aside rfl .done⟩
  | silent _ _ ih =>
      obtain ⟨parts, htext, hlater⟩ := ih hresult
      exact ⟨parts, htext, .aside rfl (.polled (.aside rfl hlater))⟩
  | @received _ _ _ _ bytes rest _ _ hreads _ ih =>
      cases rest with
      | error stop => cases hresult
      | ok rest =>
          cases hresult
          obtain ⟨parts, rfl, hlater⟩ := ih rfl
          refine ⟨bytes :: parts, ?_, .aside rfl (.polled (.heard hreads hlater))⟩
          rw [List.map_cons, String.join_cons]
  | checkFailed _ => cases hresult
  | readStopped _ _ _ => cases hresult
  | unfinished _ => cases hresult

theorem transcript_of_draining {window : Duration} {effects : List Effect} {text : String}
    (h : draining window effects (.ok text)) :
    ∃ parts : List Bytes, text = String.join (parts.map Utf8.text) ∧
      Transcript effects (parts.map .heard) := by
  obtain ⟨start, later, rfl, hlater⟩ := Course.query_andThen_iff.mp h
  cases hdeadline : Clock.deadline? start window with
  | none =>
      simp only [hdeadline] at hlater
      cases hlater.2
  | some deadline =>
      simp only [hdeadline] at hlater
      obtain ⟨parts, htext, hparts⟩ := hlater.transcript
      exact ⟨parts, htext, .aside rfl hparts⟩

end Console

namespace SmokeTest

open Course

def exchangingDialogue (command : String) (response : Bytes) : List Utterance :=
  [.said (Utf8.bytes (command ++ "\n")), .heard response]

theorem transcript_of_asking {command response : String} {settle : Duration}
    {effects : List Effect} (h : asking command settle effects (.ok response)) :
    ∃ bytes, response = Utf8.text bytes ∧ Transcript effects (exchangingDialogue command bytes) := by
  obtain ⟨_, _, later, ⟨outcome, rfl, _⟩, hsettling, rfl⟩ :=
    andThen_ok_iff.mp (mapError_ok_iff.mp h)
  obtain ⟨rest, rfl, hrest⟩ := act_andThen_iff.mp hsettling
  obtain ⟨bytes, reads, _, hreads, ⟨rfl, hresponse⟩, rfl⟩ := andThen_ok_iff.mp hrest
  exact ⟨bytes, Except.ok.inj hresponse, .said (.aside rfl (.heard hreads .done))⟩

theorem isAside_of_saving {root path : Bytes} {name : Name} {text : String}
    {effects : List Effect} (h : Archive.saving root name text effects (.ok path)) :
    ∀ effect ∈ effects, effect.isAside = true := by
  obtain ⟨_, _, _, hfolders, hrest, rfl⟩ := andThen_ok_iff.mp h
  obtain ⟨_, _, _, hfile, ⟨rfl, _⟩, rfl⟩ := andThen_ok_iff.mp hrest
  obtain rfl := call_ok_iff.mp (mapError_ok_iff.mp hfolders)
  obtain rfl := call_ok_iff.mp (mapError_ok_iff.mp hfile)
  intro effect heffect
  rcases List.mem_cons.mp heffect with rfl | hlast
  · rfl
  · obtain rfl := List.mem_singleton.mp hlast
    rfl

-- A capture starts with the reset. All that is heard after it makes the text.
theorem transcript_of_capturing {config : Config} {text : String} {path : Bytes}
    {effects : List Effect} (h : capturing config effects (.ok (text, path))) :
    ∃ (later : List Effect) (parts : List Bytes), effects = .reset (.ok ()) :: later ∧
      text = String.join (parts.map Utf8.text) ∧ Transcript later (parts.map .heard) := by
  obtain ⟨_, _, _, hreset, hrest₁, rfl⟩ := andThen_ok_iff.mp h
  obtain rfl := call_ok_iff.mp (mapError_ok_iff.mp hreset)
  obtain ⟨_, drained, _, hdrained, hrest₂, rfl⟩ := andThen_ok_iff.mp hrest₁
  obtain ⟨_, archived, _, harchived, ⟨rfl, hresult⟩, rfl⟩ := andThen_ok_iff.mp hrest₂
  obtain ⟨time, saved, rfl, hsaved⟩ := query_andThen_iff.mp harchived
  cases hresult
  obtain ⟨parts, htext, hparts⟩ := Console.transcript_of_draining (mapError_ok_iff.mp hdrained)
  have hsilent := transcript_of_aside (isAside_of_saving hsaved)
  have hlater := hparts.append (.aside rfl hsilent : Transcript (.localTime time :: saved) [])
  rw [List.append_nil] at hlater
  refine ⟨drained ++ (.localTime time :: saved), parts, ?_, htext, hlater⟩
  rw [List.append_nil, List.singleton_append]

-- What is said and heard when the parameter is changed and changed back, given the four responses.
def changingDialogue (config : Config) (initial temporary : String)
    (changed second restored third : Bytes) : List Utterance :=
  let show_ := "param show " ++ config.parameter
  let set value := "param set " ++ config.parameter ++ " " ++ value
  exchangingDialogue (set temporary) changed ++ (exchangingDialogue show_ second ++
    (exchangingDialogue (set initial) restored ++ exchangingDialogue show_ third))

theorem Change.transcript {config : Config} {initial : String} {roundTrip : RoundTrip}
    (change : Change config initial roundTrip) :
    ∃ changed second restored third : Bytes,
      change.second = Utf8.text second ∧ change.third = Utf8.text third ∧
      Transcript change.effects (changingDialogue config initial
        (RoundTrip.temporaryValue initial config.probeValue config.fallbackValue)
        changed second restored third) := by
  obtain ⟨changed, _, hchanged⟩ := transcript_of_asking change.setting_changed
  obtain ⟨second, hsecond, hshownChanged⟩ := transcript_of_asking change.showing_second
  obtain ⟨restored, _, hrestored⟩ := transcript_of_asking change.setting_restored
  obtain ⟨third, hthird, hshownRestored⟩ := transcript_of_asking change.showing_third
  exact ⟨changed, second, restored, third, hsecond, hthird,
    hchanged.append (hshownChanged.append (hrestored.append hshownRestored))⟩

end SmokeTest

end BoardSmoke
