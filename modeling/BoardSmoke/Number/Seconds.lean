import BoardSmoke.Console
import BoardSmoke.Number.Literal
import BoardSmoke.Number.Rounding

namespace BoardSmoke

namespace Decimal

-- Beyond this power of ten every number is infinite or zero after rounding.
def reach : Int := 400

-- The steps of the binary floating point number nearest to the decimal's size. None: infinite.
def steps? (decimal : Decimal) : Option Nat :=
  let digits := (Nat.toDigits 10 decimal.significand).length
  if decimal.significand = 0 ∨ decimal.exponent + digits < -reach then some 0
  else if reach < decimal.exponent + digits then none
  else if 0 ≤ decimal.exponent then
    Binary64.ofQuotient? (decimal.significand * Nat.pow 10 decimal.exponent.toNat) 1
  else Binary64.ofQuotient? decimal.significand (Nat.pow 10 (-decimal.exponent).toNat)

end Decimal

inductive SecondsError where
  | empty
  | notNumber
  -- It is negative, infinite or no number.
  | invalid
  -- No duration is that long.
  | tooBig
  -- The clock has no reading so far from now.
  | tooLong
  deriving DecidableEq, Repr

namespace SecondsError

def message (text : String) : SecondsError → String
  | .empty =>
    Text.quoted text ++ " is not a number of seconds: cannot parse float from empty string"
  | .notNumber => Text.quoted text ++ " is not a number of seconds: invalid float literal"
  | .invalid => Text.quoted text ++ " is not a valid duration"
  | .tooBig => Text.quoted text ++ " is not a valid duration: " ++
    "cannot convert float seconds to Duration: value is either too big or NaN"
  | .tooLong => Text.quoted text ++ " is too long a duration"

end SecondsError

namespace Seconds

def limit : Nat := Nat.pow 2 64

-- The whole nanoseconds nearest to a floating point number of seconds.
def nanoseconds (steps : Nat) : Nat :=
  roundHalfEven (steps * Duration.perSecond) Binary64.stepsPerUnit

-- The duration of a size that is given in steps, if the clock reaches that far from `now`.
def ofSteps (now steps : Nat) : Except SecondsError Duration :=
  if limit * Binary64.stepsPerUnit ≤ steps then .error .tooBig
  else
    let duration : Duration := ⟨nanoseconds steps⟩
    match Clock.deadline? now duration with
    | none => .error .tooLong
    | some _ => .ok duration

-- The duration that `text` writes. A negative number that rounds to zero is zero.
def parse (now : Nat) (text : String) : Except SecondsError Duration :=
  if text = "" then .error .empty
  else match Literal.parse? text with
    | none => .error .notNumber
    | some .notNumber => .error .invalid
    | some (.infinite _) => .error .invalid
    | some (.decimal number) =>
      match number.steps? with
      | none => .error .invalid
      | some steps =>
        if number.negative ∧ steps ≠ 0 then .error .invalid else ofSteps now steps

end Seconds

end BoardSmoke
