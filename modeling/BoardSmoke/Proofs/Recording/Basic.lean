import BoardSmoke.Proofs.Session
import BoardSmoke.SmokeTest

namespace BoardSmoke

-- One use of an operation, with its outcome. Log records are not recorded.
inductive Effect where
  | flash (outcome : Except RunError Unit)
  | openChannel (outcome : Except RunError Unit)
  | reset (outcome : Except Fault Unit)
  | available (outcome : Except Fault Nat)
  | read (room : Nat) (outcome : Except Fault Reading)
  | write (line : Bytes) (outcome : Except Fault Unit)
  | makeFolders (path : Bytes) (outcome : Except Fault Unit)
  | writeFile (path content : Bytes) (outcome : Except Fault Unit)
  | now (reading : Nat)
  | sleep (duration : Duration)
  | localTime (time : LocalTime)
  | close
  deriving DecidableEq

namespace Effect

-- The effects that what a channel carries has no part in.
def isAside : Effect → Bool
  | .flash _ | .openChannel _ | .makeFolders .. | .writeFile .. => true
  | .now _ | .sleep _ | .localTime _ | .close => true
  | _ => false

-- The operation with its outcome put at the end of what was recorded before.
def recording (operation : ω → α × ω) (effect : α → Effect) (world : ω × List Effect) :
    α × ω × List Effect :=
  ((operation world.1).1, (operation world.1).2, world.2 ++ [effect (operation world.1).1])

def recordingChange (change : ω → ω) (effect : Effect) (world : ω × List Effect) :
    ω × List Effect :=
  (change world.1, world.2 ++ [effect])

end Effect

open Effect

def Journal.recorded (journal : Journal ω) : Journal (ω × List Effect) where
  note record world := (journal.note record world.1, world.2)

def Channel.recorded (channel : Channel ω) : Channel (ω × List Effect) where
  toJournal := channel.toJournal.recorded
  now := recording channel.now .now
  sleep duration := recordingChange (channel.sleep duration) (.sleep duration)
  write line := recording (channel.write line) (.write line)
  available := recording channel.available .available
  read room := recording (channel.read room) (.read room)
  reset := recording channel.reset .reset
  close := recordingChange channel.close .close
  patience := channel.patience

def Disk.recorded (disk : Disk ω) : Disk (ω × List Effect) where
  makeFolders path := recording (disk.makeFolders path) (.makeFolders path)
  writeFile path content := recording (disk.writeFile path content) (.writeFile path content)

def Bench.recorded (bench : Bench ω) : Bench (ω × List Effect) where
  toChannel := bench.toChannel.recorded
  toDisk := bench.toDisk.recorded
  flash := recording bench.flash .flash
  openChannel config := recording (bench.openChannel config) .openChannel
  localTime := recording bench.localTime .localTime

-- What a session may do: effects in order, and how it ends after them.
abbrev Course (ε α : Type) := List Effect → Except (Stop ε) α → Prop

namespace Course

variable {ε ε' α β : Type}

def still (result : Except (Stop ε) α) : Course ε α := fun effects outcome =>
  effects = [] ∧ outcome = result

def call (effect : Except ε α → Effect) : Course ε α := fun effects result =>
  ∃ outcome, effects = [effect outcome] ∧ result = outcome.mapError .failed

def query (effect : α → Effect) : Course ε α := fun effects result =>
  ∃ value, effects = [effect value] ∧ result = .ok value

def act (effect : Effect) : Course ε Unit := fun effects result =>
  effects = [effect] ∧ result = .ok ()

-- One course after the other. A course that stops is the last one.
def andThen (first : Course ε α) (next : α → Course ε β) : Course ε β := fun effects result =>
  (∃ stop, first effects (.error stop) ∧ result = .error stop) ∨
  ∃ a before after, first before (.ok a) ∧ next a after result ∧ effects = before ++ after

def mapError (f : ε → ε') (course : Course ε α) : Course ε' α := fun effects result =>
  ∃ inner, course effects inner ∧ result = inner.mapError (Stop.map f)

theorem andThen_of_stop {first : Course ε α} {next : α → Course ε β} {effects : List Effect}
    {stop : Stop ε} (h : first effects (.error stop)) :
    first.andThen next effects (.error stop) :=
  .inl ⟨stop, h, rfl⟩

theorem andThen_of_ok {first : Course ε α} {next : α → Course ε β} {before after : List Effect}
    {a : α} {result : Except (Stop ε) β} (h : first before (.ok a)) (hnext : next a after result) :
    first.andThen next (before ++ after) result :=
  .inr ⟨a, before, after, h, hnext, rfl⟩

theorem query_andThen_iff {effect : α → Effect} {next : α → Course ε β} {effects : List Effect}
    {result : Except (Stop ε) β} :
    (query effect).andThen next effects result ↔
      ∃ value later, effects = effect value :: later ∧ next value later result := by
  constructor
  · rintro (⟨stop, ⟨value, _, h⟩, _⟩ | ⟨a, _, later, ⟨value, rfl, h⟩, hnext, rfl⟩)
    · cases h
    · cases h
      exact ⟨a, later, rfl, hnext⟩
  · rintro ⟨value, later, rfl, hnext⟩
    exact .inr ⟨value, [effect value], later, ⟨value, rfl, rfl⟩, hnext, rfl⟩

theorem act_andThen_iff {effect : Effect} {next : Unit → Course ε β} {effects : List Effect}
    {result : Except (Stop ε) β} :
    (act effect).andThen next effects result ↔
      ∃ later, effects = effect :: later ∧ next () later result := by
  constructor
  · rintro (⟨stop, ⟨_, h⟩, _⟩ | ⟨_, _, later, ⟨rfl, _⟩, hnext, rfl⟩)
    · cases h
    · exact ⟨later, rfl, hnext⟩
  · rintro ⟨later, rfl, hnext⟩
    exact .inr ⟨(), [effect], later, ⟨rfl, rfl⟩, hnext, rfl⟩

theorem call_andThen_iff {effect : Except ε α → Effect} {next : α → Course ε β}
    {effects : List Effect} {result : Except (Stop ε) β} :
    (call effect).andThen next effects result ↔
      (∃ error, effects = [effect (.error error)] ∧ result = .error (.failed error)) ∨
      ∃ value later, effects = effect (.ok value) :: later ∧ next value later result := by
  constructor
  · rintro (⟨stop, ⟨outcome, rfl, h⟩, rfl⟩ | ⟨a, _, later, ⟨outcome, rfl, h⟩, hnext, rfl⟩)
    · cases outcome with
      | ok value => cases h
      | error error =>
          cases h
          exact .inl ⟨error, rfl, rfl⟩
    · cases outcome with
      | ok value =>
          cases h
          exact .inr ⟨a, later, rfl, hnext⟩
      | error error => cases h
  · rintro (⟨error, rfl, rfl⟩ | ⟨value, later, rfl, hnext⟩)
    · exact andThen_of_stop ⟨.error error, rfl, rfl⟩
    · exact .inr ⟨value, [effect (.ok value)], later, ⟨.ok value, rfl, rfl⟩, hnext, rfl⟩

theorem andThen_still_iff {first : Course ε α} {f : α → β} {effects : List Effect}
    {result : Except (Stop ε) β} :
    (first.andThen fun a => still (.ok (f a))) effects result ↔
      ∃ inner, first effects inner ∧ result = inner.map f := by
  constructor
  · rintro (⟨stop, h, rfl⟩ | ⟨a, before, _, h, ⟨rfl, rfl⟩, rfl⟩)
    · exact ⟨.error stop, h, rfl⟩
    · exact ⟨.ok a, by rwa [List.append_nil], rfl⟩
  · rintro ⟨stop | a, h, rfl⟩
    · exact andThen_of_stop h
    · exact .inr ⟨a, effects, [], h, ⟨rfl, rfl⟩, (List.append_nil effects).symm⟩

theorem still_andThen (a : α) (next : α → Course ε β) :
    (still (.ok a)).andThen next = next a := by
  funext effects result
  apply propext
  constructor
  · rintro (⟨stop, ⟨_, h⟩, _⟩ | ⟨_, _, after, ⟨rfl, h⟩, hnext, rfl⟩)
    · cases h
    · cases h
      exact hnext
  · exact fun hnext => .inr ⟨a, [], effects, ⟨rfl, rfl⟩, hnext, rfl⟩

theorem andThen_assoc {γ : Type} (first : Course ε α) (second : α → Course ε β)
    (third : β → Course ε γ) :
    (first.andThen second).andThen third = first.andThen fun a => (second a).andThen third := by
  funext effects result
  apply propext
  constructor
  · rintro (⟨stop, ⟨_, h, hstop⟩ | ⟨a, before, after, h, hnext, rfl⟩, rfl⟩ |
      ⟨b, _, rest, ⟨_, _, hstop⟩ | ⟨a, before, after, h, hnext, rfl⟩, hrest, rfl⟩)
    · cases hstop
      exact andThen_of_stop h
    · exact andThen_of_ok h (andThen_of_stop hnext)
    · cases hstop
    · rw [List.append_assoc]
      exact andThen_of_ok h (andThen_of_ok hnext hrest)
  · rintro (⟨stop, h, rfl⟩ | ⟨a, before, _, h, ⟨stop, hnext, rfl⟩ |
      ⟨b, middle, after, hnext, hrest, rfl⟩, rfl⟩)
    · exact andThen_of_stop (andThen_of_stop h)
    · exact andThen_of_stop (andThen_of_ok h hnext)
    · rw [← List.append_assoc]
      exact andThen_of_ok (andThen_of_ok h hnext) hrest

theorem andThen_ok_iff {first : Course ε α} {next : α → Course ε β} {effects : List Effect}
    {b : β} :
    first.andThen next effects (.ok b) ↔
      ∃ a before later, first before (.ok a) ∧ next a later (.ok b) ∧ effects = before ++ later := by
  constructor
  · rintro (⟨stop, _, h⟩ | h)
    · cases h
    · exact h
  · exact .inr

theorem call_ok_iff {effect : Except ε α → Effect} {effects : List Effect} {a : α} :
    call effect effects (.ok a) ↔ effects = [effect (.ok a)] := by
  constructor
  · rintro ⟨outcome, rfl, houtcome⟩
    cases outcome with
    | ok value =>
        cases houtcome
        rfl
    | error error => cases houtcome
  · exact fun h => ⟨.ok a, h, rfl⟩

theorem mapError_ok_iff {f : ε → ε'} {course : Course ε α} {effects : List Effect} {a : α} :
    course.mapError f effects (.ok a) ↔ course effects (.ok a) := by
  constructor
  · rintro ⟨stop | a', h, ha⟩
    · cases ha
    · cases ha
      exact h
  · exact fun h => ⟨.ok a, h, rfl⟩

theorem mapError_andThen (f : ε → ε') (first : Course ε α) (next : α → Course ε β) :
    (first.andThen next).mapError f = (first.mapError f).andThen fun a => (next a).mapError f := by
  funext effects result
  apply propext
  constructor
  · rintro ⟨_, ⟨stop, h, rfl⟩ | ⟨a, before, after, h, hnext, rfl⟩, rfl⟩
    · exact andThen_of_stop ⟨_, h, rfl⟩
    · exact andThen_of_ok ⟨_, h, rfl⟩ ⟨_, hnext, rfl⟩
  · rintro (⟨stop, ⟨stop' | a, h, hstop⟩, rfl⟩ |
      ⟨a, before, after, ⟨stop' | a', h, ha⟩, ⟨inner, hnext, rfl⟩, rfl⟩)
    · cases hstop
      exact ⟨.error stop', andThen_of_stop h, rfl⟩
    · cases hstop
    · cases ha
    · cases ha
      exact ⟨inner, andThen_of_ok h hnext, rfl⟩

section Only

variable {p : Effect → Prop}

-- Whichever way the course is taken, each of its effects is as described.
def Only (p : Effect → Prop) (course : Course ε α) : Prop :=
  ∀ effects result, course effects result → ∀ effect ∈ effects, p effect

theorem only_still (result : Except (Stop ε) α) : Only p (still result) := by
  rintro _ _ ⟨rfl, rfl⟩
  exact List.forall_mem_nil p

theorem only_call {effect : Except ε α → Effect} (h : ∀ outcome, p (effect outcome)) :
    Only p (call effect) := by
  rintro _ _ ⟨outcome, rfl, rfl⟩
  exact List.forall_mem_singleton.mpr (h outcome)

theorem only_query {effect : α → Effect} (h : ∀ value, p (effect value)) :
    Only p (query effect : Course ε α) := by
  rintro _ _ ⟨value, rfl, rfl⟩
  exact List.forall_mem_singleton.mpr (h value)

theorem only_act {effect : Effect} (h : p effect) : Only p (act effect : Course ε Unit) := by
  rintro _ _ ⟨rfl, rfl⟩
  exact List.forall_mem_singleton.mpr h

theorem only_andThen {first : Course ε α} {next : α → Course ε β} (hfirst : Only p first)
    (hnext : ∀ a, Only p (next a)) : Only p (first.andThen next) := by
  rintro _ _ (⟨stop, h, rfl⟩ | ⟨a, before, later, h, hlater, rfl⟩)
  · exact hfirst _ _ h
  · exact List.forall_mem_append.mpr ⟨hfirst _ _ h, hnext a _ _ hlater⟩

theorem only_mapError {f : ε → ε'} {course : Course ε α} (h : Only p course) :
    Only p (course.mapError f) := by
  rintro effects _ ⟨inner, hinner, rfl⟩
  exact h effects inner hinner

end Only

end Course

namespace Session

variable {ω ε ε' α β : Type}

-- The two sessions agree, and the first one records effects that belong to the course.
def Records (recorded : Session (ω × List Effect) ε α) (plain : Session ω ε α)
    (course : Course ε α) : Prop :=
  ∀ world past, ∃ effects,
    recorded.runIn (world, past) =
      ((plain.runIn world).1, (plain.runIn world).2, past ++ effects) ∧
    course effects (plain.runIn world).1

theorem Records.mono {recorded : Session (ω × List Effect) ε α} {plain : Session ω ε α}
    {course wider : Course ε α} (h : Records recorded plain course)
    (hwider : ∀ effects result, course effects result → wider effects result) :
    Records recorded plain wider := by
  intro world past
  obtain ⟨effects, hrun, hcourse⟩ := h world past
  exact ⟨effects, hrun, hwider _ _ hcourse⟩

theorem records_pure (a : α) :
    Records (pure a : Session (ω × List Effect) ε α) (pure a) (.still (.ok a)) :=
  fun _ _ => ⟨[], by simp, rfl, rfl⟩

theorem records_fail (error : ε) :
    Records (fail error : Session (ω × List Effect) ε α) (fail error)
      (.still (.error (.failed error))) :=
  fun _ _ => ⟨[], by simp, rfl, rfl⟩

theorem records_unfinished :
    Records (unfinished : Session (ω × List Effect) ε α) unfinished
      (.still (.error .unfinished)) :=
  fun _ _ => ⟨[], by simp, rfl, rfl⟩

theorem records_call (operation : ω → Except ε α × ω) (effect : Except ε α → Effect) :
    Records (call (recording operation effect)) (call operation) (.call effect) :=
  fun world _ => ⟨[effect (operation world).1], by simp [recording], _, rfl, rfl⟩

theorem records_query (operation : ω → α × ω) (effect : α → Effect) :
    Records (query (recording operation effect) : Session (ω × List Effect) ε α)
      (query operation) (.query effect) :=
  fun world _ => ⟨[effect (operation world).1], by simp [recording], _, rfl, rfl⟩

theorem records_attempt (operation : ω → Except ε α × ω) (effect : Except ε α → Effect) :
    Records (attempt (recording operation effect) : Session (ω × List Effect) ε' (Except ε α))
      (attempt operation) (.query effect) :=
  fun world _ => ⟨[effect (operation world).1], by simp [recording], _, rfl, rfl⟩

theorem records_act (change : ω → ω) (effect : Effect) :
    Records (act (recordingChange change effect) : Session (ω × List Effect) ε Unit)
      (act change) (.act effect) :=
  fun _ _ => ⟨[effect], by simp [recordingChange], rfl, rfl⟩

theorem records_bind {recorded : Session (ω × List Effect) ε α} {plain : Session ω ε α}
    {first : Course ε α} {recordedNext : α → Session (ω × List Effect) ε β}
    {plainNext : α → Session ω ε β} {next : α → Course ε β}
    (hfirst : Records recorded plain first)
    (hnext : ∀ a, Records (recordedNext a) (plainNext a) (next a)) :
    Records (recorded >>= recordedNext) (plain >>= plainNext) (first.andThen next) := by
  intro world past
  obtain ⟨before, hrun, hcourse⟩ := hfirst world past
  rcases hplain : plain.runIn world with ⟨stop | a, middle⟩
  case error =>
    rw [hplain] at hrun hcourse
    rw [runIn_bind_of_error hplain]
    exact ⟨before, runIn_bind_of_error hrun, Course.andThen_of_stop hcourse⟩
  case ok =>
    rw [hplain] at hrun hcourse
    rw [runIn_bind_of_ok hplain]
    obtain ⟨after, hrun', hcourse'⟩ := hnext a middle (past ++ before)
    refine ⟨before ++ after, ?_, Course.andThen_of_ok hcourse hcourse'⟩
    rw [runIn_bind_of_ok hrun, hrun', List.append_assoc]

-- What a session gives may be a view of what its course gives.
theorem records_bind_view {γ : Type} {recorded : Session (ω × List Effect) ε γ}
    {plain : Session ω ε γ} {first : Course ε α} {view : α → γ}
    {recordedNext : γ → Session (ω × List Effect) ε β} {plainNext : γ → Session ω ε β}
    {next : α → Course ε β}
    (hfirst : Records recorded plain (first.andThen fun a => .still (.ok (view a))))
    (hnext : ∀ a, Records (recordedNext (view a)) (plainNext (view a)) (next a)) :
    Records (recorded >>= recordedNext) (plain >>= plainNext) (first.andThen next) := by
  intro world past
  obtain ⟨before, hrun, hcourse⟩ := hfirst world past
  obtain ⟨stop | a, hinner, hview⟩ := Course.andThen_still_iff.mp hcourse
  case error =>
    have hplain : plain.runIn world = (.error stop, (plain.runIn world).2) := by
      rw [← show (plain.runIn world).1 = .error stop from hview]
    rw [runIn_bind_of_error hplain]
    rw [hplain] at hrun
    exact ⟨before, runIn_bind_of_error hrun, Course.andThen_of_stop hinner⟩
  case ok =>
    have hplain : plain.runIn world = (.ok (view a), (plain.runIn world).2) := by
      rw [← show (plain.runIn world).1 = .ok (view a) from hview]
    rw [runIn_bind_of_ok hplain]
    rw [hplain] at hrun
    obtain ⟨after, hrun', hcourse'⟩ := hnext a (plain.runIn world).2 (past ++ before)
    refine ⟨before ++ after, ?_, Course.andThen_of_ok hinner hcourse'⟩
    rw [runIn_bind_of_ok hrun, hrun', List.append_assoc]

-- Log records do not show in the course.
theorem records_note (journal : Journal ω) (record : Record)
    {recorded : Session (ω × List Effect) ε α} {plain : Session ω ε α} {course : Course ε α}
    (h : Records recorded plain course) :
    Records (act (journal.recorded.note record) >>= fun _ => recorded)
      (act (journal.note record) >>= fun _ => plain) course := by
  intro world past
  simp only [runIn_bind, runIn_act]
  exact h (journal.note record world) past

theorem records_mapError (f : ε → ε') {recorded : Session (ω × List Effect) ε α}
    {plain : Session ω ε α} {course : Course ε α} (h : Records recorded plain course) :
    Records (mapError f recorded) (mapError f plain) (course.mapError f) := by
  intro world past
  obtain ⟨effects, hrun, hcourse⟩ := h world past
  exact ⟨effects, by simp [hrun], _, hcourse, by simp⟩

end Session

end BoardSmoke
