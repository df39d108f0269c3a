namespace BoardSmoke

structure Duration where
  nanoseconds : Nat
  deriving DecidableEq, Repr

namespace Duration

def perSecond : Nat := 1000000000

def zero : Duration := ⟨0⟩

def ofSeconds (seconds : Nat) : Duration := ⟨seconds * perSecond⟩

def ofMilliseconds (milliseconds : Nat) : Duration := ⟨milliseconds * 1000000⟩

def seconds (duration : Duration) : Nat := duration.nanoseconds / perSecond

def subsecond (duration : Duration) : Nat := duration.nanoseconds % perSecond

-- `part` written with `places` digits, less the zeros at its end.
def fractionDigits (part places : Nat) : List Char :=
  let digits := Nat.toDigits 10 part
  let padded := List.replicate (places - digits.length) '0' ++ digits
  (padded.reverse.dropWhile (· = '0')).reverse

-- `count` nanoseconds in a unit that has `places` zeros in nanoseconds.
def inUnit (count places : Nat) (unit : String) : String :=
  let size := Nat.pow 10 places
  let whole := toString (count / size)
  if count % size = 0 then whole ++ unit
  else whole ++ "." ++ String.ofList (fractionDigits (count % size) places) ++ unit

def text (duration : Duration) : String :=
  let count := duration.nanoseconds
  if 1000000000 ≤ count then inUnit count 9 "s"
  else if 1000000 ≤ count then inUnit count 6 "ms"
  else if 1000 ≤ count then inUnit count 3 "µs"
  else inUnit count 0 "ns"

end Duration

end BoardSmoke
