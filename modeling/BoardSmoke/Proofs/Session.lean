import BoardSmoke.Session

namespace BoardSmoke

instance outcomeDecidableEq {ε α : Type} [DecidableEq ε] [DecidableEq α] :
    DecidableEq (Except ε α)
  | .ok a, .ok b => decidable_of_iff (a = b) ⟨congrArg Except.ok, Except.ok.inj⟩
  | .error e, .error f => decidable_of_iff (e = f) ⟨congrArg Except.error, Except.error.inj⟩
  | .ok _, .error _ => isFalse nofun
  | .error _, .ok _ => isFalse nofun

namespace Session

variable {ω ε ε' α β : Type}

@[simp] theorem runIn_pure (a : α) (world : ω) :
    (pure a : Session ω ε α).runIn world = (.ok a, world) := rfl

-- What follows a session runs in the world that the session leaves, unless it stopped.
theorem runIn_bind (session : Session ω ε α) (next : α → Session ω ε β) (world : ω) :
    (session >>= next).runIn world =
      match session.runIn world with
      | (.ok a, after) => (next a).runIn after
      | (.error stop, after) => (.error stop, after) := by
  change (ExceptT.bind session next).run world = _
  unfold runIn ExceptT.bind ExceptT.bindCont
  simp only [ExceptT.run, ExceptT.mk, bind, StateT.bind]
  rcases session world with ⟨stop | a, after⟩ <;> rfl

theorem runIn_bind_of_ok {session : Session ω ε α} {next : α → Session ω ε β} {world after : ω}
    {a : α} (h : session.runIn world = (.ok a, after)) :
    (session >>= next).runIn world = (next a).runIn after := by
  rw [runIn_bind, h]

theorem runIn_bind_of_error {session : Session ω ε α} {next : α → Session ω ε β}
    {world after : ω} {stop : Stop ε} (h : session.runIn world = (.error stop, after)) :
    (session >>= next).runIn world = (.error stop, after) := by
  rw [runIn_bind, h]

@[simp] theorem runIn_call (operation : ω → Except ε α × ω) (world : ω) :
    (call operation).runIn world =
      ((operation world).1.mapError .failed, (operation world).2) := rfl

@[simp] theorem runIn_attempt (operation : ω → Except ε α × ω) (world : ω) :
    (attempt operation : Session ω ε' (Except ε α)).runIn world =
      (.ok (operation world).1, (operation world).2) := rfl

@[simp] theorem runIn_query (operation : ω → α × ω) (world : ω) :
    (query operation : Session ω ε α).runIn world =
      (.ok (operation world).1, (operation world).2) := rfl

@[simp] theorem runIn_act (change : ω → ω) (world : ω) :
    (act change : Session ω ε Unit).runIn world = (.ok (), change world) := rfl

@[simp] theorem runIn_fail (error : ε) (world : ω) :
    (fail error : Session ω ε α).runIn world = (.error (.failed error), world) := rfl

@[simp] theorem runIn_unfinished (world : ω) :
    (unfinished : Session ω ε α).runIn world = (.error .unfinished, world) := rfl

@[simp] theorem runIn_mapError (f : ε → ε') (session : Session ω ε α) (world : ω) :
    (mapError f session).runIn world =
      ((session.runIn world).1.mapError (Stop.map f), (session.runIn world).2) := by
  unfold mapError ExceptT.adapt runIn
  simp only [ExceptT.run, ExceptT.mk, Functor.map, StateT.map]
  rcases session world with ⟨stop | a, after⟩ <;> rfl

section Ok

variable {session : Session ω ε α} {world after : ω}

theorem runIn_bind_ok_iff {next : α → Session ω ε β} {b : β} :
    (session >>= next).runIn world = (.ok b, after) ↔
      ∃ a middle, session.runIn world = (.ok a, middle) ∧
        (next a).runIn middle = (.ok b, after) := by
  rw [runIn_bind]
  rcases session.runIn world with ⟨stop | a, middle⟩ <;> simp [and_assoc]

theorem runIn_mapError_ok_iff {f : ε → ε'} {a : α} :
    (mapError f session).runIn world = (.ok a, after) ↔ session.runIn world = (.ok a, after) := by
  rw [runIn_mapError]
  rcases session.runIn world with ⟨stop | a', middle⟩
  · exact ⟨nofun, nofun⟩
  · exact ⟨fun h => by cases h; rfl, fun h => by cases h; rfl⟩

theorem runIn_call_ok_iff {operation : ω → Except ε α × ω} {a : α} :
    (call operation).runIn world = (.ok a, after) ↔ operation world = (.ok a, after) := by
  rw [runIn_call]
  rcases operation world with ⟨error | a', middle⟩
  · exact ⟨nofun, nofun⟩
  · exact ⟨fun h => by cases h; rfl, fun h => by cases h; rfl⟩

end Ok

end Session

end BoardSmoke
