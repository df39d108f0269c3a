import BoardSmoke.Proofs.Recording.Basic

namespace BoardSmoke

namespace Session

variable {ω ε ε' α β γ : Type} {view : ω → γ}

-- What is seen of the world is the same before and after the session, however it ends.
def Spares (view : ω → γ) (session : Session ω ε α) : Prop :=
  ∀ world, view (session.runIn world).2 = view world

theorem spares_pure (a : α) : Spares view (pure a : Session ω ε α) := fun _ => rfl

theorem spares_fail (error : ε) : Spares view (fail error : Session ω ε α) := fun _ => rfl

theorem spares_unfinished : Spares view (unfinished : Session ω ε α) := fun _ => rfl

theorem spares_call {operation : ω → Except ε α × ω}
    (h : ∀ world, view (operation world).2 = view world) : Spares view (call operation) := h

theorem spares_attempt {operation : ω → Except ε α × ω}
    (h : ∀ world, view (operation world).2 = view world) :
    Spares view (attempt operation : Session ω ε' (Except ε α)) := h

theorem spares_query {operation : ω → α × ω} (h : ∀ world, view (operation world).2 = view world) :
    Spares view (query operation : Session ω ε α) := h

theorem spares_act {change : ω → ω} (h : ∀ world, view (change world) = view world) :
    Spares view (act change : Session ω ε Unit) := h

theorem Spares.bind {session : Session ω ε α} {next : α → Session ω ε β}
    (h : Spares view session) (hnext : ∀ a, Spares view (next a)) :
    Spares view (session >>= next) := by
  intro world
  rcases hrun : session.runIn world with ⟨stop | a, middle⟩
  · rw [runIn_bind_of_error hrun, ← h world, hrun]
  · rw [runIn_bind_of_ok hrun, hnext a middle, ← h world, hrun]

theorem Spares.mapError {session : Session ω ε α} (f : ε → ε') (h : Spares view session) :
    Spares view (mapError f session) := by
  intro world
  rw [runIn_mapError]
  exact h world

end Session

open Session

variable {ω : Type} {warned : ω → List Record}

-- What was warned of: a record of a warning is added at the end, and nothing else changes the list.
structure Channel.Warns (channel : Channel ω) (warned : ω → List Record) : Prop where
  note : ∀ record world, warned (channel.note record world) =
    if record.level = .warn then warned world ++ [record] else warned world
  now : ∀ world, warned (channel.now world).2 = warned world
  sleep : ∀ duration world, warned (channel.sleep duration world) = warned world
  write : ∀ line world, warned (channel.write line world).2 = warned world
  available : ∀ world, warned (channel.available world).2 = warned world
  read : ∀ room world, warned (channel.read room world).2 = warned world
  reset : ∀ world, warned (channel.reset world).2 = warned world
  close : ∀ world, warned (channel.close world) = warned world

structure Bench.Warns (bench : Bench ω) (warned : ω → List Record) : Prop
    extends bench.toChannel.Warns warned where
  makeFolders : ∀ path world, warned (bench.makeFolders path world).2 = warned world
  writeFile : ∀ path content world, warned (bench.writeFile path content world).2 = warned world
  flash : ∀ world, warned (bench.flash world).2 = warned world
  openChannel : ∀ config world, warned (bench.openChannel config world).2 = warned world
  localTime : ∀ world, warned (bench.localTime world).2 = warned world

theorem Bench.Warns.recorded {bench : Bench ω} (h : bench.Warns warned) :
    bench.recorded.Warns fun world => warned world.1 where
  note record world := h.note record world.1
  now world := h.now world.1
  sleep duration world := h.sleep duration world.1
  write line world := h.write line world.1
  available world := h.available world.1
  read room world := h.read room world.1
  reset world := h.reset world.1
  close world := h.close world.1
  makeFolders path world := h.makeFolders path world.1
  writeFile path content world := h.writeFile path content world.1
  flash world := h.flash world.1
  openChannel config world := h.openChannel config world.1
  localTime world := h.localTime world.1

-- The operation on a world that has something else beside it, which is left alone.
def Session.carrying (operation : ω → α × ω) (world : ω × κ) : α × ω × κ :=
  ((operation world.1).1, (operation world.1).2, world.2)

-- A bench that carries something along and leaves it alone.
def Bench.carrying (bench : Bench ω) (κ : Type) : Bench (ω × κ) where
  note record world := (bench.note record world.1, world.2)
  now := Session.carrying bench.now
  sleep duration world := (bench.sleep duration world.1, world.2)
  write line := Session.carrying (bench.write line)
  available := Session.carrying bench.available
  read room := Session.carrying (bench.read room)
  reset := Session.carrying bench.reset
  close world := (bench.close world.1, world.2)
  patience := bench.patience
  makeFolders path := Session.carrying (bench.makeFolders path)
  writeFile path content := Session.carrying (bench.writeFile path content)
  flash := Session.carrying bench.flash
  openChannel config := Session.carrying (bench.openChannel config)
  localTime := Session.carrying bench.localTime

namespace Channel

variable {channel : Channel ω}

theorem Warns.log {ε : Type} (h : channel.Warns warned) {level : Level} (hlevel : level ≠ .warn)
    (source : Source) (text : String) :
    Spares warned (channel.log level source text : Session ω ε Unit) :=
  spares_act fun world => (h.note _ world).trans (if_neg hlevel)

theorem Warns.fill (h : channel.Warns warned) (rounds : Nat) (buffer : Bytes) :
    Spares warned (channel.fill rounds buffer) := by
  induction rounds generalizing buffer with
  | zero =>
      cases buffer with
      | nil => exact spares_pure []
      | cons byte rest => exact spares_unfinished
  | succ rounds ih =>
      cases buffer with
      | nil => exact spares_pure []
      | cons byte rest =>
          refine (spares_attempt (h.read _)).bind fun outcome => ?_
          cases outcome with
          | ok reading =>
              by_cases hcount : reading.count = 0
              · simp only [hcount, if_true]
                exact spares_pure []
              · simp only [hcount, if_false]
                exact (ih _).bind fun _ => spares_pure _
          | error fault =>
              by_cases htimeout : fault.isTimeout
              · simp only [htimeout, if_true]
                exact spares_pure []
              by_cases hinterruption : fault.isInterruption
              · simp only [htimeout, hinterruption, if_true]
                exact ih _
              · simp only [htimeout, hinterruption]
                exact spares_fail fault

theorem Warns.readAvailable (h : channel.Warns warned) : Spares warned channel.readAvailable :=
  (spares_call h.available).bind fun _ => h.fill _ _

end Channel

namespace Console

variable {channel : Channel ω}

theorem collect_spares (h : channel.Warns warned) (deadline rounds : Nat) :
    Spares warned (collect channel deadline rounds) := by
  induction rounds with
  | zero =>
      refine (spares_query h.now).bind fun time => ?_
      split
      · exact spares_unfinished
      · exact spares_pure ""
  | succ rounds ih =>
      refine (spares_query h.now).bind fun time => ?_
      split
      · refine (spares_call h.available).bind fun pending => ?_
        split
        · refine h.readAvailable.bind fun bytes => ?_
          refine (h.log (by decide) _ _).bind fun _ => ?_
          exact ih.bind fun rest => spares_pure _
        · exact (spares_act (h.sleep _)).bind fun _ => ih
      · exact spares_pure ""

theorem drain_spares (h : channel.Warns warned) (window : Duration) :
    Spares warned (drain channel window) := by
  refine (spares_query h.now).bind fun start => ?_
  cases Clock.deadline? start window with
  | none => exact spares_fail _
  | some deadline => exact collect_spares h deadline _

theorem send_spares (h : channel.Warns warned) (command : String) (settle : Duration) :
    Spares warned (send channel command settle) := by
  refine (h.log (by decide) _ _).bind fun _ => ?_
  refine (spares_call (h.write _)).bind fun _ => ?_
  refine (spares_act (h.sleep _)).bind fun _ => ?_
  refine h.readAvailable.bind fun bytes => ?_
  exact (h.log (by decide) _ _).bind fun _ => spares_pure _

theorem fetch_spares (h : channel.Warns warned) (name : String) (settle : Duration) :
    Spares warned (fetch channel name settle) := by
  refine (send_spares h _ _).bind fun response => ?_
  exact (h.log (by decide) _ _).bind fun _ => spares_pure _

end Console

namespace SmokeTest

variable {bench : Bench ω} (h : bench.Warns warned)

include h

theorem save_spares (root : Bytes) (name : Name) (text : String) :
    Spares warned (Archive.save bench.toJournal bench.toDisk root name text) := by
  refine ((spares_call (h.makeFolders _)).mapError _).bind fun _ => ?_
  refine (h.log (by decide) _ _).bind fun _ => ?_
  exact ((spares_call (h.writeFile _ _)).mapError _).bind fun _ => spares_pure _

theorem captureBootLog_spares (config : Config) :
    Spares warned (captureBootLog bench config) := by
  refine (h.log (by decide) _ _).bind fun _ => ?_
  refine ((spares_call h.reset).mapError _).bind fun _ => ?_
  refine ((Console.drain_spares h.toWarns _).mapError _).bind fun text => ?_
  refine (spares_query h.localTime).bind fun time => ?_
  refine (save_spares h _ _ _).bind fun path => ?_
  exact (h.log (by decide) _ _).bind fun _ => spares_pure _

theorem readParameter_spares (config : Config) : Spares warned (readParameter bench config) :=
  (Console.fetch_spares h.toWarns _ _).mapError _

theorem setParameter_spares (config : Config) (value : String) :
    Spares warned (setParameter bench config value) :=
  ((Console.send_spares h.toWarns _ _).mapError _).bind fun _ => spares_pure ()

theorem tryParameter_spares (config : Config) : Spares warned (tryParameter bench config) := by
  refine (readParameter_spares h config).bind fun reading => ?_
  cases reading.value with
  | none => exact spares_pure _
  | some initial =>
      refine (h.log (by decide) _ _).bind fun _ => ?_
      refine (setParameter_spares h config _).bind fun _ => ?_
      refine (readParameter_spares h config).bind fun updated => ?_
      refine (h.log (by decide) _ _).bind fun _ => ?_
      refine (setParameter_spares h config initial).bind fun _ => ?_
      refine (readParameter_spares h config).bind fun restored => ?_
      exact (h.log (by decide) _ _).bind fun _ => spares_pure _

end SmokeTest

end BoardSmoke
