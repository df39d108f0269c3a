namespace BoardSmoke

-- Why a session has no result. The second case belongs to loops that repeat for as long as the
-- world asks for it: they take a bound on the number of rounds, and report when it was reached.
inductive Stop (ε : Type) where
  | failed (error : ε)
  | unfinished
  deriving DecidableEq, Repr

def Stop.map (f : ε → ε') : Stop ε → Stop ε'
  | .failed error => .failed (f error)
  | .unfinished => .unfinished

-- A computation on the world `ω` that gives an `α`, or fails with an `ε`.
abbrev Session (ω ε α : Type) := ExceptT (Stop ε) (StateM ω) α

namespace Session

-- A call whose failure ends the session.
def call (operation : ω → Except ε α × ω) : Session ω ε α :=
  ExceptT.mk fun world =>
    let (result, world) := operation world
    (result.mapError .failed, world)

-- A call whose failure the session looks at.
def attempt (operation : ω → Except ε α × ω) : Session ω ε' (Except ε α) :=
  ExceptT.mk fun world =>
    let (result, world) := operation world
    (.ok result, world)

def query (operation : ω → α × ω) : Session ω ε α :=
  ExceptT.mk fun world =>
    let (value, world) := operation world
    (.ok value, world)

def act (change : ω → ω) : Session ω ε Unit :=
  ExceptT.mk fun world => (.ok (), change world)

def fail (error : ε) : Session ω ε α := throw (.failed error)

def unfinished : Session ω ε α := throw .unfinished

def mapError (f : ε → ε') (session : Session ω ε α) : Session ω ε' α :=
  ExceptT.adapt (Stop.map f) session

def runIn (session : Session ω ε α) (world : ω) : Except (Stop ε) α × ω := session.run world

end Session

end BoardSmoke
