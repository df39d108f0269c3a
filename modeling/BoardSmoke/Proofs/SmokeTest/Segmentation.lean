import BoardSmoke.Board
import BoardSmoke.Proofs.Playback
import BoardSmoke.Proofs.Recording.Transcript
import BoardSmoke.Proofs.Recording.Writing
import BoardSmoke.Proofs.Segments
import BoardSmoke.Proofs.Spares
import Mathlib.Data.List.Forall2

namespace BoardSmoke

open Session

namespace Effect

def isRead : Effect → Bool
  | .read .. => true
  | _ => false

-- The same effect, or one that differs in nothing but the time that is told or that a boot log is named
-- after.
inductive Alike (root : Bytes) : Effect → Effect → Prop
  | refl (effect : Effect) : Alike root effect effect
  | localTime (time time' : LocalTime) : Alike root (.localTime time) (.localTime time')
  | writeFile {path path' : Bytes} (h : Archive.AlikePath root path path') (content : Bytes)
      (outcome : Except Fault Unit) :
      Alike root (.writeFile path content outcome) (.writeFile path' content outcome)

def content? : Effect → Option Bytes
  | .writeFile _ content (.ok ()) => some content
  | _ => none

def isNow : Effect → Bool
  | .now _ => true
  | _ => false

def isAvailable : Effect → Bool
  | .available _ => true
  | _ => false

end Effect

-- The effects but for the reads.
def unread (effects : List Effect) : List Effect := effects.filter (!·.isRead)

def contents (effects : List Effect) : List Bytes := effects.filterMap Effect.content?

-- How often it was checked what is buffered. The check of a poll does not count: it comes right after a
-- look at the clock.
def checks (clocked : Bool) : List Effect → Nat
  | [] => 0
  | effect :: later =>
    (if effect.isAvailable && !clocked then 1 else 0) + checks effect.isNow later

-- How often what is buffered was read, in as many reads as it took.
def readings (effects : List Effect) : Nat := checks false (unread effects)

theorem unread_append (before later : List Effect) :
    unread (before ++ later) = unread before ++ unread later :=
  List.filter_append ..

theorem Channel.Filling.unread_eq_nil {buffer : Bytes} {effects : List Effect}
    {result : Except (Stop Fault) Bytes} (h : Filling buffer effects result) : unread effects = [] := by
  refine List.filter_eq_nil_iff.mpr fun effect heffect => ?_
  obtain ⟨room, outcome, rfl⟩ := h.isRead effect heffect
  exact Bool.false_ne_true

section Alike

variable {root : Bytes} {effects effects' : List Effect}

theorem Effect.Alike.unread {effect effect' : Effect} (h : Alike root effect effect') :
    List.Forall₂ (Alike root) (unread [effect]) (unread [effect']) := by
  cases h with
  | refl effect => exact List.forall₂_same.mpr fun _ _ => .refl _
  | localTime time time' => exact .cons (.localTime time time') .nil
  | writeFile h content outcome => exact .cons (.writeFile h content outcome) .nil

-- What does not show in the reads, in the times or in the names of the boot logs is the same.
theorem filterMap_eq_of_alike {f : Effect → Option α}
    (hread : ∀ room outcome, f (.read room outcome) = none)
    (halike : ∀ effect effect', Effect.Alike root effect effect' → f effect = f effect')
    (h : List.Forall₂ (Effect.Alike root) (unread effects) (unread effects')) :
    effects.filterMap f = effects'.filterMap f := by
  have hunread (effects : List Effect) : effects.filterMap f = (unread effects).filterMap f := by
    rw [unread, List.filterMap_filter]
    refine List.filterMap_congr fun effect _ => ?_
    cases effect <;> simp [Effect.isRead, hread]
  rw [hunread effects, hunread effects']
  generalize unread effects = shown, unread effects' = shown' at h
  induction h with
  | nil => rfl
  | cons heffect _ ih => rw [List.filterMap_cons, List.filterMap_cons, halike _ _ heffect, ih]

theorem checks_eq_of_alike (clocked : Bool) (h : List.Forall₂ (Effect.Alike root) effects effects') :
    checks clocked effects = checks clocked effects' := by
  induction h generalizing clocked with
  | nil => rfl
  | cons heffect _ ih =>
      have hkind : ∀ effect effect', Effect.Alike root effect effect' →
          effect.isAvailable = effect'.isAvailable ∧ effect.isNow = effect'.isNow := by
        rintro _ _ (_ | _ | _) <;> exact ⟨rfl, rfl⟩
      rw [checks, checks, (hkind _ _ heffect).1, (hkind _ _ heffect).2, ih]

end Alike

-- Two recorded worlds that are the same at the core, after alike effects.
def Beside (root : Bytes) (core : ω → κ) (core' : ω' → κ) (world : ω × List Effect)
    (world' : ω' × List Effect) : Prop :=
  core world.1 = core' world'.1 ∧
    List.Forall₂ (Effect.Alike root) (unread world.2) (unread world'.2)

section Beside

variable {ω ω' κ α : Type} {root : Bytes} {core : ω → κ} {core' : ω' → κ}

theorem Beside.record {world : ω × List Effect} {world' : ω' × List Effect} {after : ω} {after' : ω'}
    {effect effect' : Effect} (h : Beside root core core' world world')
    (hafter : core after = core' after') (heffect : Effect.Alike root effect effect') :
    Beside root core core' (after, world.2 ++ [effect]) (after', world'.2 ++ [effect']) := by
  refine ⟨hafter, ?_⟩
  rw [unread_append, unread_append]
  exact List.rel_append h.2 heffect.unread

-- Operations that move the core in the same way agree, also when they are recorded.
theorem agree_recording {operation : ω → α × ω} {operation' : ω' → α × ω'} {plain : κ → α × κ}
    {effect effect' : α → Effect} (h : Tracks core operation plain)
    (h' : Tracks core' operation' plain)
    (heffect : ∀ a, Effect.Alike root (effect a) (effect' a)) :
    Agree (Beside root core core') Eq (Effect.recording operation effect)
      (Effect.recording operation' effect') := by
  rintro ⟨world, past⟩ ⟨world', past'⟩ hbeside
  have hcore : core world = core' world' := hbeside.1
  have hsame := (h world).trans (hcore ▸ (h' world').symm)
  obtain ⟨hvalue, hafter⟩ := Prod.mk.inj hsame
  refine ⟨hvalue, hbeside.record hafter ?_⟩
  rw [hvalue]
  exact heffect _

theorem beside_recordingChange {change : ω → ω} {change' : ω' → ω'} {plain : κ → κ}
    (h : ∀ world, core (change world) = plain (core world))
    (h' : ∀ world, core' (change' world) = plain (core' world)) (effect : Effect)
    (world : ω × List Effect) (world' : ω' × List Effect)
    (hbeside : Beside root core core' world world') :
    Beside root core core' (Effect.recordingChange change effect world)
      (Effect.recordingChange change' effect world') :=
  hbeside.record (by rw [h, h', hbeside.1]) (.refl effect)

end Beside

-- To the machine it makes no difference after which of the times that the two benches tell a boot log is
-- named.
def Bench.TimesAlike (machine : Bench (Bytes × σ)) (root : Bytes) (first : Bench ω)
    (second : Bench ω') (core : ω → Bytes × σ) (core' : ω' → Bytes × σ) : Prop :=
  ∀ world world', core world = core' world' → ∀ content state,
    machine.writeFile (Archive.bootLogPath root (first.localTime world).1) content state =
      machine.writeFile (Archive.bootLogPath root (second.localTime world').1) content state

theorem Bench.TimesAlike.symm {machine : Bench (Bytes × σ)} {root : Bytes} {first : Bench ω}
    {second : Bench ω'} {core : ω → Bytes × σ} {core' : ω' → Bytes × σ}
    (h : machine.TimesAlike root first second core core') :
    machine.TimesAlike root second first core' core :=
  fun world' world hcore content state => (h world world' hcore.symm content state).symm

section Segments

variable {ω ω' σ : Type} {machine : Bench (Bytes × σ)} {first : Bench ω} {second : Bench ω'}
  {core : ω → Bytes × σ} {core' : ω' → Bytes × σ} {left : ω → Nat} {left' : ω' → Nat}
  (hmachine : machine.Buffered) (hfirst : first.Segments machine core left)
  (hsecond : second.Segments machine core' left')

include hmachine hfirst hsecond

-- Two buffers of one size are filled with the same bytes, in whatever parts they come.
theorem fill_follows (root : Bytes) (rounds : Nat) (buffer : Bytes) :
    Follows (Beside root core core') Eq Eq (first.toChannel.recorded.fill rounds buffer)
      fun patience => (second.toChannel.recorded.patient patience).fill patience buffer := by
  rintro ⟨world, past⟩ ⟨world', past'⟩ ⟨hcore : core world = core' world', heffects⟩ hends
  obtain ⟨effects, hrecorded, hfilling⟩ :=
    Channel.fill_records first.toChannel rounds buffer world past
  rw [hrecorded] at hends ⊢
  obtain ⟨hresult, hafter⟩ := hfirst.runIn_fill hmachine hends
  obtain ⟨enough, after', hrun', hafter'⟩ := hsecond.fill_ends hmachine buffer world'
  obtain ⟨effects', hrecorded', hfilling'⟩ :=
    Channel.fill_records second.toChannel enough buffer world' past'
  rw [hrun', ← hcore, ← hresult] at hrecorded'
  rw [← hcore, ← hafter] at hafter'
  refine ⟨_, (after', past' ++ effects'), ⟨enough, fun patience hpatience => ?_⟩,
    Matches.of_ne_unfinished hends, hafter'.symm, ?_⟩
  · change ((second.toChannel.recorded.patient patience).fill patience buffer).runIn _ = _
    rw [Channel.fill_patient, ← hrecorded']
    exact Channel.runIn_fill_of_le _ hpatience (by rwa [hrecorded'])
  · rwa [unread_append, unread_append, hfilling.unread_eq_nil, hfilling'.unread_eq_nil,
      List.append_nil, List.append_nil]

theorem readAvailable_follows (root : Bytes) :
    Follows (Beside root core core') Eq Eq first.toChannel.recorded.readAvailable
      fun patience => (second.toChannel.recorded.patient patience).readAvailable := by
  have havailable : Agree (Beside root core core') Eq first.toChannel.recorded.available
      second.toChannel.recorded.available :=
    agree_recording hfirst.available hsecond.available fun _ => .refl _
  refine (follows_call (fun _ => rfl) havailable).bind ?_
  rintro pending _ rfl
  exact fill_follows hmachine hfirst hsecond root first.patience _

-- Two benches with the same machine at the core do alike.
theorem recorded_mirrors {root : Bytes} (htimes : machine.TimesAlike root first second core core') :
    first.recorded.Mirrors second.recorded (Beside root core core') root where
  note record record' world world' hbeside := by
    refine ⟨?_, hbeside.2⟩
    exact (hfirst.note _ _).trans (hbeside.1.trans (hsecond.note _ _).symm)
  now := agree_recording hfirst.now hsecond.now fun _ => .refl _
  sleep duration := beside_recordingChange (hfirst.sleep duration) (hsecond.sleep duration) _
  write line := agree_recording (hfirst.write line) (hsecond.write line) fun _ => .refl _
  available := agree_recording hfirst.available hsecond.available fun _ => .refl _
  readAvailable := readAvailable_follows hmachine hfirst hsecond root
  reset := agree_recording hfirst.reset hsecond.reset fun _ => .refl _
  close := beside_recordingChange hfirst.close hsecond.close _
  makeFolders path :=
    agree_recording (hfirst.makeFolders path) (hsecond.makeFolders path) fun _ => .refl _
  writeFile path content := agree_recording (hfirst.writeFile path content)
    (hsecond.writeFile path content) fun _ => .refl _
  flash := agree_recording hfirst.flash hsecond.flash fun _ => .refl _
  openChannel config :=
    agree_recording (hfirst.openChannel config) (hsecond.openChannel config) fun _ => .refl _
  localTime world world' hbeside := by
    refine ⟨fun content => ?_, hbeside.record ?_ (.localTime _ _)⟩
    · have hsame := htimes world.1 world'.1 hbeside.1 content
      refine agree_recording (hfirst.writeFile _ content) (fun inner => ?_)
        fun outcome => .writeFile (.bootLog _ _) content outcome
      exact (hsecond.writeFile _ content inner).trans (hsame (core' inner)).symm
    · exact (hfirst.localTime _).trans (hbeside.1 ▸ (hsecond.localTime _).symm)

end Segments

namespace SmokeTest

-- Two runs of a test that cannot be told apart, but by the times that they tell and name a boot log
-- after: their results, the machines that they leave, and what they did.
structure Indistinct (root : Bytes) (result result' : Except (Stop RunError) Report)
    (machine machine' : κ) (effects effects' : List Effect) : Prop where
  result_alike : Matches (RunError.Alike root) (Report.Alike root) result result'
  machine_eq : machine = machine'
  effects_alike : List.Forall₂ (Effect.Alike root) (unread effects) (unread effects')
  attempted_eq : attempted effects = attempted effects'
  written_eq : written effects = written effects'
  readings_eq : readings effects = readings effects'
  contents_eq : contents effects = contents effects'

theorem indistinct_of_beside {root : Bytes} {core : ω → κ} {core' : ω' → κ}
    {result result' : Except (Stop RunError) Report} {ended : ω × List Effect}
    {ended' : ω' × List Effect}
    (hresult : Matches (RunError.Alike root) (Report.Alike root) result result')
    (h : Beside root core core' ended ended') :
    Indistinct root result result' (core ended.1) (core' ended'.1) ended.2 ended'.2 where
  result_alike := hresult
  machine_eq := h.1
  effects_alike := h.2
  attempted_eq := filterMap_eq_of_alike (fun _ _ => rfl)
    (by rintro _ _ (_ | _ | _) <;> rfl) h.2
  written_eq := filterMap_eq_of_alike (fun _ _ => rfl)
    (by rintro _ _ (_ | _ | _) <;> rfl) h.2
  readings_eq := checks_eq_of_alike false h.2
  contents_eq := filterMap_eq_of_alike (fun _ _ => rfl)
    (by rintro _ _ (_ | _ | ⟨_, _, _ | _⟩) <;> rfl) h.2

theorem runIn_of_recorded {bench : Bench ω} {config : Config} {world after : ω}
    {result : Except (Stop RunError) Report} {done : List Effect}
    (h : (run bench.recorded config).runIn (world, []) = (result, after, done)) :
    (run bench config).runIn world = (result, after) ∧ effects bench config world = done := by
  rw [runIn_recorded] at h
  cases h
  exact ⟨rfl, rfl⟩

section Ends

variable {ω ω' σ : Type} {machine : Bench (Bytes × σ)} {first : Bench ω} {second : Bench ω'}
  {core : ω → Bytes × σ} {core' : ω' → Bytes × σ} {left : ω → Nat} {left' : ω' → Nat}
  {config : Config}

-- A test that comes to an end in one way of cutting the reads does so in every other.
theorem ends_of_ends (hmachine : machine.Buffered) (hfirst : first.Segments machine core left)
    (hsecond : second.Segments machine core' left')
    (htimes : machine.TimesAlike config.logRoot first second core core')
    {world : ω} {world' : ω'} (hworld : core world = core' world')
    (hends : ((run first config).runIn world).1 ≠ .error .unfinished) :
    ∃ result' after' effects',
      Ends (fun patience => run (second.patient patience).recorded config) (world', []) result'
        (after', effects') ∧
      Indistinct config.logRoot ((run first config).runIn world).1 result'
        (core ((run first config).runIn world).2) (core' after') (effects first config world)
        effects' := by
  have hfollows := run_follows (recorded_mirrors hmachine hfirst hsecond htimes)
  obtain ⟨result', ⟨after', effects'⟩, hsecondEnds, hmatches, hbeside⟩ :=
    hfollows (world, []) (world', []) ⟨hworld, .nil⟩ (by rwa [runIn_recorded])
  rw [runIn_recorded] at hmatches hbeside
  exact ⟨result', after', effects', hsecondEnds, indistinct_of_beside hmatches hbeside⟩

-- However reads are cut into segments, and however often they are interrupted in between, a test comes to
-- the same end on the same machine, given the patience, or to none at all.
theorem segmentation_unobservable (hmachine : machine.Buffered)
    (hfirst : first.Segments machine core left) (hsecond : second.Segments machine core' left')
    (config : Config) (htimes : machine.TimesAlike config.logRoot first second core core')
    {world : ω} {world' : ω'} (hworld : core world = core' world') :
    (∃ result result' after after' effects effects',
      Ends (fun patience => run (first.patient patience).recorded config) (world, []) result
        (after, effects) ∧
      Ends (fun patience => run (second.patient patience).recorded config) (world', []) result'
        (after', effects') ∧
      Indistinct config.logRoot result result' (core after) (core' after') effects effects') ∨
    ∀ patience, ((run (first.patient patience) config).runIn world).1 = .error .unfinished ∧
      ((run (second.patient patience) config).runIn world').1 = .error .unfinished := by
  have hback (patience : Nat)
      (hends : ((run (second.patient patience) config).runIn world').1 ≠ .error .unfinished) :=
    ends_of_ends hmachine (hsecond.patient patience) hfirst htimes.symm hworld.symm hends
  by_cases hsome :
      ∃ patience, ((run (first.patient patience) config).runIn world).1 ≠ .error .unfinished
  · obtain ⟨patience, hends⟩ := hsome
    -- over to the second bench and back, the first one is seen to end whenever it has the patience
    obtain ⟨_, _, _, ⟨enough, hsecondRun⟩, hover⟩ :=
      ends_of_ends hmachine (hfirst.patient patience) hsecond htimes hworld hends
    obtain ⟨hsecondRun, -⟩ := runIn_of_recorded (hsecondRun enough (Nat.le_refl enough))
    obtain ⟨result, after, effects, hfirstEnds, hreturn⟩ :=
      hback enough (by rw [hsecondRun]; exact hover.result_alike.ne_unfinished)
    obtain ⟨enough', hfirstRun⟩ := hfirstEnds
    obtain ⟨hfirstRun', heffects⟩ := runIn_of_recorded (hfirstRun enough' (Nat.le_refl enough'))
    obtain ⟨result', after', effects', hsecondEnds, hsame⟩ :=
      ends_of_ends hmachine (hfirst.patient enough') hsecond htimes hworld
        (by rw [hfirstRun']; exact hreturn.result_alike.ne_unfinished)
    rw [hfirstRun', heffects] at hsame
    exact .inl ⟨result, result', after, after', effects, effects', ⟨enough', hfirstRun⟩, hsecondEnds,
      hsame⟩
  · have hnone (patience : Nat) :
        ((run (first.patient patience) config).runIn world).1 = .error .unfinished :=
      Classical.not_not.mp (not_exists.mp hsome patience)
    refine .inr fun patience => ⟨hnone patience, Classical.byContradiction fun hends => ?_⟩
    obtain ⟨_, _, _, ⟨enough, hfirstRun⟩, hreturn⟩ := hback patience hends
    obtain ⟨hfirstRun, -⟩ := runIn_of_recorded (hfirstRun enough (Nat.le_refl enough))
    exact hreturn.result_alike.ne_unfinished (by rw [← hnone enough, hfirstRun])

end Ends

end SmokeTest

-- How a read departs from a read of everything asked for.
inductive Cut where
  | interrupted
  -- At most so many bytes, but one at least.
  | atMost (count : Nat)
  deriving DecidableEq

-- A machine whose reads are cut, one after the other, as long as there are cuts left. It keeps no log and
-- tells a time of its own.
def Bench.cut (machine : Bench (Bytes × σ)) (time : LocalTime) : Bench ((Bytes × σ) × List Cut) :=
  { machine.carrying (List Cut) with
    note _ world := world
    read room world :=
      match world.2 with
      | .interrupted :: cuts => (.error (.plain .interrupted), world.1, cuts)
      | .atMost count :: cuts => Session.carrying (machine.read (min room (max 1 count))) (world.1, cuts)
      | [] => Session.carrying (machine.read room) world
    localTime world := (time, (machine.localTime world.1).2, world.2) }

theorem Bench.cut_segments (machine : Bench (Bytes × σ)) (time : LocalTime) :
    (machine.cut time).Segments machine Prod.fst fun world => world.2.length where
  read := by
    rintro room ⟨core, _ | ⟨_ | count, cuts⟩⟩ hroom
    · exact .inr ⟨room, hroom, Nat.le_refl room, rfl⟩
    · exact .inl ⟨_, rfl, rfl, rfl, Nat.lt_succ_self _⟩
    · exact .inr ⟨min room (max 1 count), by omega, Nat.min_le_left .., rfl⟩
  note _ _ := rfl
  now _ := rfl
  sleep _ _ := rfl
  write _ _ := rfl
  available _ := rfl
  reset _ := rfl
  close _ := rfl
  makeFolders _ _ := rfl
  writeFile _ _ _ := rfl
  flash _ := rfl
  openChannel _ _ := rfl
  localTime _ := rfl

-- A board on a desk: what it says when it is reset, the time, and the contents of the files that were
-- written.
structure Desk where
  board : Board
  boot : Bytes
  time : Nat
  files : List Bytes
  deriving DecidableEq

namespace Desk

def bench : Bench (Bytes × Desk) where
  note _ world := world
  now world := (world.2.time, world)
  sleep duration world := (world.1, { world.2 with time := world.2.time + duration.nanoseconds })
  write line world :=
    let (answers, board) := world.2.board.receive line
    (.ok (), world.1 ++ answers, { world.2 with board })
  available world := (.ok world.1.length, world)
  read room world :=
    (.ok ⟨world.1.take room, (world.1.take room).length⟩, world.1.drop room, world.2)
  reset world := (.ok (), world.2.boot, { world.2 with boot := [] })
  close world := world
  patience := 0
  makeFolders _ world := (.ok (), world)
  writeFile _ content world :=
    (.ok (), world.1, { world.2 with files := world.2.files ++ [content] })
  flash world := (.ok (), world)
  openChannel _ world := (.ok (), world)
  localTime world := (⟨2025, 1, 1, 0, 0, 0⟩, world)

theorem bench_buffered : bench.Buffered where
  read_front _ _ _ _ _ := rfl
  read_dry room rest _ := by simp [bench]
  dry_gives_nothing _ := rfl

theorem writeFile_path (path path' content : Bytes) (state : Bytes × Desk) :
    bench.writeFile path content state = bench.writeFile path' content state := rfl

-- The shell of the board knows P, which is 1. There is input from before the reset.
def start : Bytes × Desk where
  fst := Utf8.bytes "P 5"
  snd := {
    board := ⟨[], .shell ⟨Utf8.bytes "v1\r\n", [("P", "1")], true, [], 0⟩⟩
    boot := Utf8.bytes "boot", time := 0, files := [] }

end Desk

namespace SmokeTest

-- Some reads of one test are cut or interrupted, and none of the other. They end a year apart.
theorem cuts_unobservable :
    let config := Playback.bootingConfig
    let cuts : List Cut :=
      [.interrupted, .atMost 1, .atMost 2, .interrupted, .interrupted, .atMost 5, .atMost 3]
    let first := Desk.bench.cut ⟨2025, 1, 1, 0, 0, 0⟩
    let second := Desk.bench.cut ⟨2026, 1, 1, 0, 0, 0⟩
    ((run (first.patient 30) config).runIn (Desk.start, cuts)).1 ≠ .error .unfinished ∧
    Desk.bench.Buffered ∧
    first.Segments Desk.bench Prod.fst (fun world => world.2.length) ∧
    second.Segments Desk.bench Prod.fst (fun world => world.2.length) ∧
    Desk.bench.TimesAlike config.logRoot first second Prod.fst Prod.fst ∧
    ∃ result result' after after' effects effects',
      Ends (fun patience => run (first.patient patience).recorded config)
        ((Desk.start, cuts), []) result (after, effects) ∧
      Ends (fun patience => run (second.patient patience).recorded config)
        ((Desk.start, []), []) result' (after', effects') ∧
      Indistinct config.logRoot result result' after.1 after'.1 effects effects' := by
  intro config cuts first second
  have hends : ((run (first.patient 30) config).runIn (Desk.start, cuts)).1 ≠
      .error .unfinished := by decide +kernel
  have hfirst := Desk.bench.cut_segments ⟨2025, 1, 1, 0, 0, 0⟩
  have hsecond := Desk.bench.cut_segments ⟨2026, 1, 1, 0, 0, 0⟩
  have htimes : Desk.bench.TimesAlike config.logRoot first second Prod.fst Prod.fst :=
    fun _ _ _ _ _ => Desk.writeFile_path ..
  have hstart : (Desk.start, cuts).1 = (Desk.start, ([] : List Cut)).1 := rfl
  refine ⟨hends, Desk.bench_buffered, hfirst, hsecond, htimes, ?_⟩
  exact (segmentation_unobservable Desk.bench_buffered hfirst hsecond config htimes
    hstart).resolve_right fun hnone => hends (hnone 30).1

end SmokeTest

end BoardSmoke
