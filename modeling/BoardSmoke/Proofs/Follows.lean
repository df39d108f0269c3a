import BoardSmoke.Proofs.Patience

namespace BoardSmoke

namespace Session

variable {ω ω' ε ε' α β : Type}

-- Two sessions came to an end, with alike values or with alike errors.
inductive Matches (E : ε → ε → Prop) (V : α → α → Prop) :
    Except (Stop ε) α → Except (Stop ε) α → Prop
  | ok {a a' : α} (h : V a a') : Matches E V (.ok a) (.ok a')
  | failed {error error' : ε} (h : E error error') :
      Matches E V (.error (.failed error)) (.error (.failed error'))

theorem Matches.ne_unfinished {E : ε → ε → Prop} {V : α → α → Prop}
    {result result' : Except (Stop ε) α} (h : Matches E V result result') :
    result' ≠ .error .unfinished := by
  cases h <;> exact nofun

theorem Matches.of_ne_unfinished {result : Except (Stop ε) α} (h : result ≠ .error .unfinished) :
    Matches Eq Eq result result := by
  rcases result with (error | _) | a
  · exact .failed rfl
  · exact absurd rfl h
  · exact .ok rfl

-- With enough patience the session ends in this way.
def Ends (session : Nat → Session ω ε α) (world : ω) (result : Except (Stop ε) α) (after : ω) :
    Prop :=
  ∃ enough, ∀ patience, enough ≤ patience → (session patience).runIn world = (result, after)

-- In alike worlds two operations give alike values, and the worlds stay alike.
def Agree (R : ω → ω' → Prop) (V : α → α → Prop) (operation : ω → α × ω)
    (operation' : ω' → α × ω') : Prop :=
  ∀ world world', R world world' →
    V (operation world).1 (operation' world').1 ∧ R (operation world).2 (operation' world').2

-- In alike worlds, if the first session comes to an end then so does the second one with the patience
-- for it. They end alike, and so do the worlds.
def Follows (R : ω → ω' → Prop) (E : ε → ε → Prop) (V : α → α → Prop) (first : Session ω ε α)
    (second : Nat → Session ω' ε α) : Prop :=
  ∀ world world', R world world' → (first.runIn world).1 ≠ .error .unfinished →
    ∃ result after, Ends second world' result after ∧
      Matches E V (first.runIn world).1 result ∧ R (first.runIn world).2 after

variable {R : ω → ω' → Prop} {E : ε → ε → Prop} {V : α → α → Prop} {W : β → β → Prop}

theorem follows_of_forall {first : Session ω ε α} {second : Session ω' ε α}
    (h : ∀ world world', R world world' →
      Matches E V (first.runIn world).1 (second.runIn world').1 ∧
        R (first.runIn world).2 (second.runIn world').2) :
    Follows R E V first fun _ => second :=
  fun world world' hworld _ => ⟨_, _, ⟨0, fun _ _ => rfl⟩, h world world' hworld⟩

theorem follows_pure {a a' : α} (h : V a a') :
    Follows R E V (pure a) fun _ => (pure a' : Session ω' ε α) :=
  follows_of_forall fun _ _ hworld => ⟨.ok h, hworld⟩

theorem follows_fail {error error' : ε} (h : E error error') :
    Follows R E V (fail error) fun _ => fail error' :=
  follows_of_forall fun _ _ hworld => ⟨.failed h, hworld⟩

theorem follows_unfinished {second : Nat → Session ω' ε α} : Follows R E V unfinished second :=
  fun _ _ _ hends => absurd rfl hends

theorem follows_call {operation : ω → Except ε α × ω} {operation' : ω' → Except ε α × ω'}
    (hE : ∀ error, E error error) (h : Agree R Eq operation operation') :
    Follows R E Eq (call operation) fun _ => call operation' := by
  refine follows_of_forall fun world world' hworld => ?_
  obtain ⟨hsame, hafter⟩ := h world world' hworld
  refine ⟨?_, hafter⟩
  rw [runIn_call, runIn_call, ← hsame]
  cases (operation world).1 with
  | ok a => exact .ok rfl
  | error error => exact .failed (hE error)

theorem follows_query {operation : ω → α × ω} {operation' : ω' → α × ω'}
    (h : Agree R V operation operation') :
    Follows R E V (query operation) fun _ => query operation' :=
  follows_of_forall fun world world' hworld =>
    ⟨.ok (h world world' hworld).1, (h world world' hworld).2⟩

theorem follows_act {change : ω → ω} {change' : ω' → ω'}
    (h : ∀ world world', R world world' → R (change world) (change' world')) :
    Follows R E Eq (act change) fun _ => act change' :=
  follows_of_forall fun world world' hworld => ⟨.ok rfl, h world world' hworld⟩

theorem Follows.bind {first : Session ω ε α} {second : Nat → Session ω' ε α}
    {next : α → Session ω ε β} {next' : Nat → α → Session ω' ε β}
    (h : Follows R E V first second)
    (hnext : ∀ a a', V a a' → Follows R E W (next a) fun patience => next' patience a') :
    Follows R E W (first >>= next) fun patience => second patience >>= next' patience := by
  intro world world' hworld hends
  rcases hrun : first.runIn world with ⟨stop | a, middle⟩
  case error =>
    rw [runIn_bind_of_error hrun] at hends ⊢
    obtain ⟨result, after, ⟨enough, hsecond⟩, hmatches, hafter⟩ :=
      h world world' hworld fun hstop => hends (by rw [hrun] at hstop; cases hstop; rfl)
    rw [hrun] at hmatches hafter
    cases hmatches with
    | failed herror =>
        exact ⟨_, after, ⟨enough, fun patience hpatience =>
          runIn_bind_of_error (hsecond patience hpatience)⟩, .failed herror, hafter⟩
  case ok =>
    rw [runIn_bind_of_ok hrun] at hends ⊢
    obtain ⟨result, middle', ⟨enough, hsecond⟩, hmatches, hmiddle⟩ :=
      h world world' hworld (by rw [hrun]; exact nofun)
    rw [hrun] at hmatches hmiddle
    cases hmatches with
    | ok hvalue =>
        obtain ⟨result', after, ⟨enough', hnext'⟩, hend⟩ :=
          hnext _ _ hvalue middle middle' hmiddle hends
        refine ⟨result', after, ⟨max enough enough', fun patience hpatience => ?_⟩, hend⟩
        rw [runIn_bind_of_ok (hsecond patience (by omega))]
        exact hnext' patience (by omega)

theorem Follows.mapError {E' : ε' → ε' → Prop} {f f' : ε → ε'} {first : Session ω ε α}
    {second : Nat → Session ω' ε α} (h : Follows R E V first second)
    (hf : ∀ error error', E error error' → E' (f error) (f' error')) :
    Follows R E' V (mapError f first) fun patience => mapError f' (second patience) := by
  intro world world' hworld hends
  rw [runIn_mapError] at hends ⊢
  have hfirst : (first.runIn world).1 ≠ .error .unfinished := fun hstop =>
    hends (by rw [hstop]; rfl)
  obtain ⟨result, after, ⟨enough, hsecond⟩, hmatches, hafter⟩ := h world world' hworld hfirst
  refine ⟨result.mapError (Stop.map f'), after, ⟨enough, fun patience hpatience => ?_⟩, ?_, hafter⟩
  · rw [runIn_mapError, hsecond patience hpatience]
  · generalize (first.runIn world).1 = ended at hmatches
    cases hmatches with
    | ok hvalue => exact .ok hvalue
    | failed herror => exact .failed (hf _ _ herror)

theorem follows_call_mapError {E' : ε' → ε' → Prop} {f f' : ε → ε'}
    {operation : ω → Except ε α × ω} {operation' : ω' → Except ε α × ω'}
    (hf : ∀ error, E' (f error) (f' error)) (h : Agree R Eq operation operation') :
    Follows R E' Eq (mapError f (call operation)) fun _ => mapError f' (call operation') := by
  have hcall : Follows R Eq Eq (call operation) fun _ => call operation' :=
    follows_call (fun _ => rfl) h
  exact hcall.mapError fun error _ hsame => hsame ▸ hf error

theorem Follows.of_eq {first : Session ω ε α} {second second' : Nat → Session ω' ε α}
    (h : Follows R E V first second') (least : Nat)
    (heq : ∀ patience, least ≤ patience → second patience = second' patience) :
    Follows R E V first second := by
  intro world world' hworld hends
  obtain ⟨result, after, ⟨enough, hsecond⟩, hend⟩ := h world world' hworld hends
  refine ⟨result, after, ⟨max least enough, fun patience hpatience => ?_⟩, hend⟩
  rw [heq patience (by omega)]
  exact hsecond patience (by omega)

end Session

open Session

variable {ω ω' : Type} {R : ω → ω' → Prop}

-- Two channels whose operations keep two worlds alike, whatever is logged.
structure Channel.Mirrors (first : Channel ω) (second : Channel ω') (R : ω → ω' → Prop) :
    Prop where
  note : ∀ record record' world world', R world world' →
    R (first.note record world) (second.note record' world')
  now : Agree R Eq first.now second.now
  sleep : ∀ duration world world', R world world' →
    R (first.sleep duration world) (second.sleep duration world')
  write : ∀ line, Agree R Eq (first.write line) (second.write line)
  available : Agree R Eq first.available second.available
  readAvailable :
    Follows R Eq Eq first.readAvailable fun patience => (second.patient patience).readAvailable
  reset : Agree R Eq first.reset second.reset
  close : ∀ world world', R world world' → R (first.close world) (second.close world')

namespace Archive

def bootLogPath (root : Bytes) (time : LocalTime) : Bytes := Path.join root (bootLogName time)

-- The same path, or the paths of two boot logs, which differ in the times that they are named after.
inductive AlikePath (root : Bytes) : Bytes → Bytes → Prop
  | refl (path : Bytes) : AlikePath root path path
  | bootLog (time time' : LocalTime) :
      AlikePath root (bootLogPath root time) (bootLogPath root time')

end Archive

open Archive

-- Two benches whose operations keep two worlds alike. The times that they tell may differ, if it makes
-- no difference to a boot log after which of them it is named.
structure Bench.Mirrors (first : Bench ω) (second : Bench ω') (R : ω → ω' → Prop) (root : Bytes) :
    Prop extends first.toChannel.Mirrors second.toChannel R where
  makeFolders : ∀ path, Agree R Eq (first.makeFolders path) (second.makeFolders path)
  writeFile : ∀ path content,
    Agree R Eq (first.writeFile path content) (second.writeFile path content)
  flash : Agree R Eq first.flash second.flash
  openChannel : ∀ config, Agree R Eq (first.openChannel config) (second.openChannel config)
  localTime : Agree R
    (fun time time' => ∀ content, Agree R Eq (first.writeFile (bootLogPath root time) content)
      (second.writeFile (bootLogPath root time') content))
    first.localTime second.localTime

inductive RunError.Alike (root : Bytes) : RunError → RunError → Prop
  | refl (error : RunError) : Alike root error error
  | logNotWritten {path path' : Bytes} (h : AlikePath root path path') (cause : Fault) :
      Alike root (.logNotWritten path cause) (.logNotWritten path' cause)

inductive Report.Alike (root : Bytes) : Report → Report → Prop
  | intro (report : Report) (time time' : LocalTime) :
      Alike root { report with bootLogPath := Archive.bootLogPath root time }
        { report with bootLogPath := Archive.bootLogPath root time' }

namespace Channel

variable {first : Channel ω} {second : Channel ω'}

theorem Mirrors.log {ε : Type} {E : ε → ε → Prop} (h : first.Mirrors second R) (level : Level)
    (source : Source) (text text' : String) :
    Follows R E Eq (first.log level source text) fun patience =>
      (second.patient patience).log level source text' :=
  follows_act (h.note _ _)

end Channel

namespace Console

variable {first : Channel ω} {second : Channel ω'}

private theorem clocked_follows (h : first.Mirrors second R) {deadline used : Nat}
    {poll : Session ω Fault String}
    (hpoll : Follows R Eq Eq poll fun patience => do
      if 0 < (← Session.call second.available) then
        let bytes ← (second.patient patience).readAvailable
        (second.patient patience).log .trace .console ("Drained " ++ toString bytes.length ++ " bytes")
        let rest ← collect (second.patient patience) deadline (patience - (used + 1))
        pure (Utf8.text bytes ++ rest)
      else
        Session.act (second.sleep pollInterval)
        collect (second.patient patience) deadline (patience - (used + 1))) :
    Follows R Eq Eq
      (query first.now >>= fun time => if time < deadline then poll else pure "")
      fun patience => collect (second.patient patience) deadline (patience - used) := by
  have hround : Follows R Eq Eq
      (query first.now >>= fun time => if time < deadline then poll else pure "")
      fun patience => collect (second.patient patience) deadline (patience - (used + 1) + 1) := by
    refine (follows_query h.now).bind ?_
    rintro time _ rfl
    by_cases htime : time < deadline
    · simp only [htime, if_true]
      exact hpoll
    · simp only [htime, if_false]
      exact follows_pure rfl
  refine hround.of_eq (used + 1) fun patience hpatience => ?_
  rw [show patience - used = patience - (used + 1) + 1 by omega]

theorem collect_follows (h : first.Mirrors second R) (deadline rounds used : Nat) :
    Follows R Eq Eq (collect first deadline rounds) fun patience =>
      collect (second.patient patience) deadline (patience - used) := by
  induction rounds generalizing used with
  | zero => exact clocked_follows h follows_unfinished
  | succ rounds ih =>
      refine clocked_follows h ((follows_call (fun _ => rfl) h.available).bind ?_)
      rintro pending _ rfl
      by_cases hpending : 0 < pending
      · simp only [hpending, if_true]
        refine h.readAvailable.bind ?_
        rintro bytes _ rfl
        refine (h.log _ _ _ _).bind fun _ _ _ => (ih (used + 1)).bind ?_
        rintro rest _ rfl
        exact follows_pure rfl
      · simp only [hpending, if_false]
        exact (follows_act (h.sleep _)).bind fun _ _ _ => ih (used + 1)

theorem drain_follows (h : first.Mirrors second R) (window : Duration) :
    Follows R Eq Eq (drain first window) fun patience =>
      drain (second.patient patience) window := by
  refine (follows_query h.now).bind ?_
  rintro start _ rfl
  cases Clock.deadline? start window with
  | none => exact follows_fail rfl
  | some deadline => exact collect_follows h deadline first.patience 0

theorem send_follows (h : first.Mirrors second R) (command : String) (settle : Duration) :
    Follows R Eq Eq (send first command settle) fun patience =>
      send (second.patient patience) command settle := by
  refine (h.log _ _ _ _).bind fun _ _ _ => ?_
  refine (follows_call (fun _ => rfl) (h.write _)).bind fun _ _ _ => ?_
  refine (follows_act (h.sleep _)).bind fun _ _ _ => h.readAvailable.bind ?_
  rintro bytes _ rfl
  exact (h.log _ _ _ _).bind fun _ _ _ => follows_pure rfl

theorem fetch_follows (h : first.Mirrors second R) (name : String) (settle : Duration) :
    Follows R Eq Eq (fetch first name settle) fun patience =>
      fetch (second.patient patience) name settle := by
  refine (send_follows h _ _).bind ?_
  rintro response _ rfl
  exact (h.log _ _ _ _).bind fun _ _ _ => follows_pure rfl

end Console

namespace SmokeTest

variable {root : Bytes} {first : Bench ω} {second : Bench ω'}

theorem onConsole_follows {α : Type} {V : α → α → Prop} {session : Session ω Fault α}
    {session' : Nat → Session ω' Fault α} (h : Follows R Eq V session session') :
    Follows R (RunError.Alike root) V (onConsole session) fun patience =>
      onConsole (session' patience) :=
  h.mapError fun _ _ hsame => hsame ▸ .refl _

section Mirrors

variable (h : first.Mirrors second R root)

include h

theorem log_follows {E : RunError → RunError → Prop} (level : Level) (text text' : String) :
    Follows R E Eq (log first level text) fun patience =>
      log (second.patient patience) level text' :=
  h.toMirrors.log level .smoke text text'

-- A file is saved under alike paths, if it makes no difference under which.
theorem save_follows {name name' : Name} (text : String)
    (hpath : AlikePath root (Path.join root name) (Path.join root name'))
    (hfile : ∀ content, Agree R Eq (first.writeFile (Path.join root name) content)
      (second.writeFile (Path.join root name') content)) :
    Follows R (RunError.Alike root)
      (fun path path' => path = Path.join root name ∧ path' = Path.join root name')
      (save first.toJournal first.toDisk root name text) fun patience =>
        save (second.patient patience).toJournal (second.patient patience).toDisk root name' text := by
  refine (follows_call_mapError (fun _ => .refl _) (h.makeFolders root)).bind fun _ _ _ => ?_
  refine (follows_act (h.note _ _)).bind fun _ _ _ => ?_
  refine (follows_call_mapError (fun cause => .logNotWritten hpath cause)
    (hfile (Utf8.bytes text))).bind fun _ _ _ => ?_
  exact follows_pure ⟨rfl, rfl⟩

theorem warn_follows {E : RunError → RunError → Prop} (warnings : List Warning) :
    Follows R E Eq (warn first warnings) fun patience =>
      warn (second.patient patience) warnings := by
  induction warnings with
  | nil => exact follows_pure rfl
  | cons warning warnings ih => exact (log_follows h .warn _ _).bind fun _ _ _ => ih

theorem readParameter_follows (config : Config) :
    Follows R (RunError.Alike root) Eq (readParameter first config) fun patience =>
      readParameter (second.patient patience) config :=
  onConsole_follows (Console.fetch_follows h.toMirrors _ _)

theorem setParameter_follows (config : Config) (value : String) :
    Follows R (RunError.Alike root) Eq (setParameter first config value) fun patience =>
      setParameter (second.patient patience) config value :=
  (onConsole_follows (Console.send_follows h.toMirrors _ _)).bind fun _ _ _ => follows_pure rfl

theorem tryParameter_follows (config : Config) :
    Follows R (RunError.Alike root) Eq (tryParameter first config) fun patience =>
      tryParameter (second.patient patience) config := by
  refine (readParameter_follows h config).bind ?_
  rintro reading _ rfl
  dsimp only
  cases reading.value with
  | none => exact follows_pure rfl
  | some initial =>
      refine (log_follows h _ _ _).bind fun _ _ _ => ?_
      refine (setParameter_follows h config _).bind fun _ _ _ => ?_
      refine (readParameter_follows h config).bind ?_
      rintro updated _ rfl
      refine (log_follows h _ _ _).bind fun _ _ _ => ?_
      refine (setParameter_follows h config initial).bind fun _ _ _ => ?_
      refine (readParameter_follows h config).bind ?_
      rintro restored _ rfl
      exact (log_follows h _ _ _).bind fun _ _ _ => follows_pure rfl

end Mirrors

variable {config : Config} (h : first.Mirrors second R config.logRoot)

include h

-- The two boot logs have the same text, and names of their own.
theorem captureBootLog_follows :
    Follows R (RunError.Alike config.logRoot)
      (fun captured captured' => ∃ text time time',
        captured = (text, bootLogPath config.logRoot time) ∧
        captured' = (text, bootLogPath config.logRoot time'))
      (captureBootLog first config) fun patience =>
        captureBootLog (second.patient patience) config := by
  refine (log_follows h _ _ _).bind fun _ _ _ => ?_
  refine (onConsole_follows (follows_call (fun _ => rfl) h.reset)).bind fun _ _ _ => ?_
  refine (onConsole_follows (Console.drain_follows h.toMirrors _)).bind ?_
  rintro text _ rfl
  refine (follows_query h.localTime).bind fun time time' hfile => ?_
  refine (save_follows h text (.bootLog time time') hfile).bind ?_
  rintro _ _ ⟨rfl, rfl⟩
  exact (log_follows h _ _ _).bind fun _ _ _ => follows_pure ⟨text, time, time', rfl, rfl⟩

-- A test that comes to an end on the first bench comes to the same end on the second one, given the
-- patience.
theorem run_follows :
    Follows R (RunError.Alike config.logRoot) (Report.Alike config.logRoot) (run first config)
      fun patience => run (second.patient patience) config := by
  refine (follows_call .refl h.flash).bind fun _ _ _ => ?_
  refine (follows_call .refl (h.openChannel config)).bind fun _ _ _ => ?_
  refine (captureBootLog_follows h).bind ?_
  rintro _ _ ⟨bootLog, time, time', rfl, rfl⟩
  refine (warn_follows h _).bind fun _ _ _ => ?_
  refine (onConsole_follows (Console.send_follows h.toMirrors _ _)).bind ?_
  rintro versionOutput _ rfl
  refine (log_follows h _ _ _).bind fun _ _ _ => (tryParameter_follows h config).bind ?_
  rintro roundTrip _ rfl
  refine (warn_follows h _).bind fun _ _ _ => ?_
  refine (save_follows h versionOutput (.refl _) (h.writeFile _)).bind ?_
  rintro _ _ ⟨rfl, rfl⟩
  refine (log_follows h _ _ _).bind fun _ _ _ => (follows_act h.close).bind fun _ _ _ => ?_
  exact follows_pure (.intro ⟨bootLog, [], versionOutput, _, roundTrip, _⟩ time time')

end SmokeTest

end BoardSmoke
