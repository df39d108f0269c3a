namespace BoardSmoke.Suggestion

-- What a comparison found so far: common characters, how many of them lie before the one found
-- last, where that one is, and which places of the other name are still free.
structure Tally where
  common : Nat
  moved : Nat
  last : Nat
  free : List Bool

-- Finds a partner for the character at `index` of one name: the first free place of the other name
-- with that character, at a distance of at most `range`.
def Tally.look (tally : Tally) (range : Nat) (other : List Char) (index : Nat) (c : Char) : Tally :=
  let place? := (List.range other.length).find? fun place =>
    place ≤ index + range && index ≤ place + range && other[place]? = some c &&
      tally.free[place]? = some true
  match place? with
  | none => tally
  | some place =>
    { common := tally.common + 1
      moved := if place < tally.last then tally.moved + 1 else tally.moved
      last := place
      free := tally.free.set place false }

def tally (one other : List Char) : Tally :=
  let range := max one.length other.length / 2 - 1
  let start : Tally := ⟨0, 0, 0, List.replicate other.length true⟩
  (one.zipIdx).foldl (fun tally (c, index) => tally.look range other index c) start

-- The share of common characters, from 0 to 1.
def closeness (one other : List Char) : Float :=
  if one = [] ∧ other = [] then 1.0
  else
    let tally := tally one other
    if tally.common = 0 then 0.0
    else
      let common := Float.ofNat tally.common
      (1.0 / 3.0) * (common / Float.ofNat one.length + common / Float.ofNat other.length +
        (common - Float.ofNat tally.moved) / common)

def commonStart (one other : List Char) : Nat :=
  ((one.zip other).takeWhile fun (a, b) => a == b).length

-- The closeness, raised by a tenth of what it lacks for each character at a common start.
def similarity (one other : List Char) : Float :=
  let closeness := closeness one other
  let raised := closeness + 0.1 * Float.ofNat (commonStart one other) * (1.0 - closeness)
  if raised <= 1.0 then raised else 1.0

def threshold : Float := 0.8

-- The better one of a candidate and the best so far, which stays if both are equally similar.
def better (name : String) (best : Option (Float × String)) (candidate : String) :
    Option (Float × String) :=
  let similarity := similarity name.toList candidate.toList
  let bound := match best with
    | none => threshold
    | some (other, _) => other
  if similarity > bound then some (similarity, candidate) else best

-- The first of the most similar names above the threshold.
def best? (name : String) (known : List String) : Option String :=
  (known.foldl (better name) none).map (·.2)

end BoardSmoke.Suggestion
