import BoardSmoke.Text.Blank
import BoardSmoke.Text.Width

namespace BoardSmoke.Text

-- A blank that does not end a word.
def nonBreaking : Char := '\u00A0'

def isBreak (c : Char) : Bool := isBlank c && c != nonBreaking

def isWordChar (c : Char) : Bool := c.isAlphanum || (0x80 ≤ c.toNat && !isBlank c)

-- The lengths of the parts of a word up to each hyphen after which it may be cut, counted from
-- `before`.
def hyphenCuts (before : Nat) : List Char → List Nat
  | a :: '-' :: c :: rest =>
    if isWordChar a && isWordChar c then (before + 2) :: hyphenCuts (before + 1) ('-' :: c :: rest)
    else hyphenCuts (before + 1) ('-' :: c :: rest)
  | _ :: rest => hyphenCuts (before + 1) rest
  | [] => []

-- A text as blanks and words in turn: each word with the blanks before it.
def cutWords : Nat → List Char → List (List Char × List Char)
  | 0, _ => []
  | _, [] => []
  | fuel + 1, text =>
    let blanks := text.takeWhile isBreak
    let rest := text.drop blanks.length
    let word := rest.takeWhile (!isBreak ·)
    (blanks, word) :: cutWords fuel (rest.drop word.length)

-- The longest part of a word that ends at a hyphen and has at most `columns` columns.
def fittingPart? (columns : Nat) (word : List Char) : Option Nat :=
  ((hyphenCuts 0 word).filter fun length => width (word.take length) ≤ columns).getLast?

-- The shortest part that a word can be cut into.
def smallestPart (word : List Char) : Nat := (hyphenCuts 0 word).headD word.length

-- Puts words into lines of at most `columns` columns. `line` is the line being filled.
def fillLines (columns : Nat) : Nat → List Char → List (List Char × List Char) → List (List Char)
  | 0, line, _ => [line]
  | _, line, [] => [line]
  | _, line, [(blanks, [])] => [line ++ blanks]
  | fuel + 1, line, (blanks, word) :: words =>
    let longer := line ++ blanks ++ word
    if width longer ≤ columns then fillLines columns fuel longer words
    else match fittingPart? (columns - width (line ++ blanks)) word with
      | some length =>
        (line ++ blanks ++ word.take length) ::
          fillLines columns fuel [] (([], word.drop length) :: words)
      | none =>
        if line ≠ [] then line :: fillLines columns fuel [] (([], word) :: words)
        else
          let length := smallestPart word
          if length < word.length then
            word.take length :: fillLines columns fuel [] (([], word.drop length) :: words)
          else fillLines columns fuel word words

def wrap (columns : Nat) (text : List Char) : List (List Char) :=
  fillLines columns (2 * text.length + 2) [] (cutWords (text.length + 1) text)

end BoardSmoke.Text
