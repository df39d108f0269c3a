namespace BoardSmoke.Text

-- The ranges of White_Space.
def blankRanges : List (Nat × Nat) :=
  [(0x9, 0xd), (0x20, 0x20), (0x85, 0x85), (0xa0, 0xa0), (0x1680, 0x1680), (0x2000, 0x200a),
   (0x2028, 0x2029), (0x202f, 0x202f), (0x205f, 0x205f), (0x3000, 0x3000)]

def isBlank (c : Char) : Bool :=
  blankRanges.any fun (low, high) => low ≤ c.toNat && c.toNat ≤ high

-- A text cut at its newlines: the lines that a newline ends, and what follows the last newline.
def cutLines : List Char → List (List Char) × List Char
  | [] => ([], [])
  | c :: rest =>
    let (ended, last) := cutLines rest
    if c = '\n' then ([] :: ended, last)
    else match ended with
      | [] => ([], c :: last)
      | line :: ended => ((c :: line) :: ended, last)

-- A carriage return right before the newline belongs to the line end.
def dropReturn (line : List Char) : List Char :=
  if line.getLast? = some '\r' then line.dropLast else line

-- The lines of a text, without their ends. The part after the last newline is a line unless it
-- is empty, and keeps a carriage return at its end.
def lines (text : List Char) : List (List Char) :=
  let (ended, last) := cutLines text
  ended.map dropReturn ++ if last = [] then [] else [last]

-- The stretches between blanks, empty ones included.
def cutBlanks : List Char → List Char × List (List Char)
  | [] => ([], [])
  | c :: rest =>
    let (word, words) := cutBlanks rest
    if isBlank c then ([], word :: words) else (c :: word, words)

def words (text : List Char) : List (List Char) :=
  let (word, rest) := cutBlanks text
  (word :: rest).filter (· ≠ [])

end BoardSmoke.Text
