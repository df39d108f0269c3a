namespace BoardSmoke

def roundHalfEven (num den : Nat) : Nat :=
  let low := num / den
  let rest := 2 * (num % den)
  if rest < den then low
  else if den < rest then low + 1
  else if low % 2 = 0 then low
  else low + 1

namespace Binary64

-- Values are counted in steps of the smallest positive one.
def stepsPerUnit : Nat := Nat.pow 2 1074

def limit : Nat := Nat.pow 2 1024 * stepsPerUnit

def precision : Nat := 53

-- The count of steps nearest to `num / den` among the counts with at most `precision` bits before
-- their zeros at the end.
def roundSteps (num den : Nat) : Nat :=
  let num := num * stepsPerUnit
  let unit := Nat.pow 2 (Nat.log2 (num / den) + 1 - precision)
  roundHalfEven num (den * unit) * unit

-- The steps of the value nearest to `num / den`. None: it is beyond all finite values.
def ofQuotient? (num den : Nat) : Option Nat :=
  let steps := roundSteps num den
  if steps < limit then some steps else none

end Binary64

end BoardSmoke
