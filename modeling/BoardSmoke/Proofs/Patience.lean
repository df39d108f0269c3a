import BoardSmoke.Proofs.Session
import BoardSmoke.SmokeTest

namespace BoardSmoke

-- The same channel and the same bench with another bound on the rounds of a loop.
def Channel.patient (channel : Channel ω) (patience : Nat) : Channel ω := { channel with patience }

def Bench.patient (bench : Bench ω) (patience : Nat) : Bench ω := { bench with patience }

namespace Session

variable {ω ε ε' α β : Type}

-- With enough patience the session gives `a` and leaves `after`.
def Yields (session : Nat → Session ω ε α) (world : ω) (a : α) (after : ω) : Prop :=
  ∃ enough, ∀ patience, enough ≤ patience → (session patience).runIn world = (.ok a, after)

theorem yields_of_forall {session : Nat → Session ω ε α} {world after : ω} {a : α}
    (h : ∀ patience, (session patience).runIn world = (.ok a, after)) :
    Yields session world a after :=
  ⟨0, fun patience _ => h patience⟩

-- Only what the session is with much patience matters.
theorem Yields.of_eq {session session' : Nat → Session ω ε α} {world after : ω} {a : α}
    (h : Yields session' world a after) (least : Nat)
    (heq : ∀ patience, least ≤ patience → session patience = session' patience) :
    Yields session world a after := by
  obtain ⟨enough, hrun⟩ := h
  refine ⟨max least enough, fun patience hpatience => ?_⟩
  rw [heq patience (by omega)]
  exact hrun patience (by omega)

theorem Yields.unique {session : Nat → Session ω ε α} {world after after' : ω} {a a' : α}
    (h : Yields session world a after) (h' : Yields session world a' after') :
    a = a' ∧ after = after' := by
  obtain ⟨enough, hrun⟩ := h
  obtain ⟨enough', hrun'⟩ := h'
  have hsame := (hrun (max enough enough') (by omega)).symm.trans
    (hrun' (max enough enough') (by omega))
  cases hsame
  exact ⟨rfl, rfl⟩

theorem yields_pure (a : α) (world : ω) :
    Yields (fun _ => (pure a : Session ω ε α)) world a world :=
  yields_of_forall fun _ => rfl

theorem Yields.bind {session : Nat → Session ω ε α} {next : Nat → α → Session ω ε β}
    {world middle after : ω} {a : α} {b : β} (h : Yields session world a middle)
    (hnext : Yields (fun patience => next patience a) middle b after) :
    Yields (fun patience => session patience >>= next patience) world b after := by
  obtain ⟨enough, hrun⟩ := h
  obtain ⟨enough', hrun'⟩ := hnext
  refine ⟨max enough enough', fun patience hpatience => ?_⟩
  rw [runIn_bind_of_ok (hrun patience (by omega))]
  exact hrun' patience (by omega)

theorem Yields.mapError (f : ε → ε') {session : Nat → Session ω ε α} {world after : ω} {a : α}
    (h : Yields session world a after) :
    Yields (fun patience => mapError f (session patience)) world a after := by
  obtain ⟨enough, hrun⟩ := h
  refine ⟨enough, fun patience hpatience => ?_⟩
  rw [runIn_mapError, hrun patience hpatience]
  rfl

theorem yields_call {operation : ω → Except ε α × ω} {world : ω} {a : α}
    (h : (operation world).1 = .ok a) :
    Yields (fun _ => call operation) world a (operation world).2 :=
  yields_of_forall fun _ => by rw [runIn_call, h]; rfl

theorem yields_attempt (operation : ω → Except ε α × ω) (world : ω) :
    Yields (fun _ => (attempt operation : Session ω ε' (Except ε α))) world (operation world).1
      (operation world).2 :=
  yields_of_forall fun _ => rfl

theorem yields_query (operation : ω → α × ω) (world : ω) :
    Yields (fun _ => (query operation : Session ω ε α)) world (operation world).1
      (operation world).2 :=
  yields_of_forall fun _ => rfl

theorem yields_act (change : ω → ω) (world : ω) :
    Yields (fun _ => (act change : Session ω ε Unit)) world () (change world) :=
  yields_of_forall fun _ => rfl

end Session

end BoardSmoke
