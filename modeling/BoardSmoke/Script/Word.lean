import BoardSmoke.Text.Blank

namespace BoardSmoke.Script

-- A part of a word: characters as they are, or the value of a variable. What is quoted is neither
-- split into several words nor taken for a keyword.
inductive Piece where
  | literal (text : List Char) (quoted : Bool)
  | value (name : List Char) (quoted : Bool)
  deriving DecidableEq, Repr

abbrev Word := List Piece

inductive Token where
  | word (word : Word)
  -- A character that separates words and means something by itself.
  | mark (mark : Char)
  -- The number of a stream right before its redirection.
  | stream (number : Nat)
  deriving DecidableEq, Repr

inductive Mode where
  | bare
  | single
  | double
  -- After a backslash, within double quotes or not.
  | escape (inside : Bool)
  -- After a dollar sign, and within a variable's name.
  | dollar (inside : Bool)
  | name (inside braced : Bool) (text : List Char)
  | comment
  deriving DecidableEq, Repr

structure Reader where
  tokens : List Token
  -- The pieces of the word that is being read, the last one first. None: no word is being read.
  word : Option Word
  mode : Mode

namespace Reader

def start : Reader := ⟨[], none, .bare⟩

def push (reader : Reader) (piece : Piece) : Reader :=
  { reader with word := some (piece :: reader.word.getD []) }

def add (reader : Reader) (c : Char) (quoted : Bool) : Reader :=
  match reader.word with
  | some (.literal text other :: pieces) =>
    if other = quoted then { reader with word := some (.literal (text ++ [c]) quoted :: pieces) }
    else reader.push (.literal [c] quoted)
  | _ => reader.push (.literal [c] quoted)

def endWord (reader : Reader) : Reader :=
  match reader.word with
  | some word => { reader with tokens := reader.tokens ++ [.word word.reverse], word := none }
  | none => reader

def isMark (c : Char) : Bool := c ∈ [';', '&', '|', '<', '>', '(', ')', '\n']

def digits? (text : List Char) : Option Nat :=
  if text ≠ [] ∧ text.all Char.isDigit then (String.ofList text).toNat? else none

-- Ends the word before a redirection. A bare number there is the number of a stream.
def endBeforeRedirection (reader : Reader) : Reader :=
  match reader.word with
  | some [.literal text false] =>
    match digits? text with
    | some number => { reader with tokens := reader.tokens ++ [.stream number], word := none }
    | none => reader.endWord
  | _ => reader.endWord

def bare (reader : Reader) (c : Char) : Reader :=
  if c = '\'' then { reader.push (.literal [] true) with mode := .single }
  else if c = '"' then { reader.push (.literal [] true) with mode := .double }
  else if c = '\\' then { reader with mode := .escape false }
  else if c = '$' then { reader with mode := .dollar false }
  else if c = '#' ∧ reader.word = none then { reader with mode := .comment }
  else if c = ' ' ∨ c = '\t' then { reader.endWord with mode := .bare }
  else if isMark c then
    let ended := if c = '>' ∨ c = '<' then reader.endBeforeRedirection else reader.endWord
    { ended with tokens := ended.tokens ++ [.mark c], mode := .bare }
  else { reader.add c false with mode := .bare }

def double (reader : Reader) (c : Char) : Reader :=
  if c = '"' then { reader with mode := .bare }
  else if c = '\\' then { reader with mode := .escape true }
  else if c = '$' then { reader with mode := .dollar true }
  else { reader.add c true with mode := .double }

-- Goes on after a variable, within double quotes or not.
def resume (reader : Reader) (inside : Bool) (c : Char) : Reader :=
  if inside then reader.double c else reader.bare c

def isSpecial (c : Char) : Bool := c ∈ ['@', '*', '#', '?', '$', '!'] || c.isDigit

def isNameChar (c : Char) : Bool := c.isAlphanum || c = '_'

def step (reader : Reader) (c : Char) : Reader :=
  match reader.mode with
  | .bare => reader.bare c
  | .single =>
    if c = '\'' then { reader with mode := .bare } else reader.add c true
  | .double => reader.double c
  | .escape false =>
    if c = '\n' then { reader with mode := .bare }
    else { reader.add c true with mode := .bare }
  | .escape true =>
    if c = '\n' then { reader with mode := .double }
    else if c ∈ ['$', '"', '\\', '\x60'] then { reader.add c true with mode := .double }
    else { (reader.add '\\' true).add c true with mode := .double }
  | .dollar inside =>
    if c = '\x7b' then { reader with mode := .name inside true [] }
    else if isSpecial c then
      { reader.push (.value [c] inside) with mode := if inside then .double else .bare }
    else if isNameChar c then { reader with mode := .name inside false [c] }
    else (reader.add '$' inside).resume inside c
  | .name inside true text =>
    if c = '\x7d' then
      { reader.push (.value text inside) with mode := if inside then .double else .bare }
    else { reader with mode := .name inside true (text ++ [c]) }
  | .name inside false text =>
    if isNameChar c then { reader with mode := .name inside false (text ++ [c]) }
    else (reader.push (.value text inside)).resume inside c
  | .comment =>
    if c = '\n' then { reader with tokens := reader.tokens ++ [.mark c], mode := .bare }
    else reader

def finish (reader : Reader) : Option (List Token) :=
  match reader.mode with
  | .bare => some reader.endWord.tokens
  | .comment => some reader.tokens
  | .dollar false => some (reader.add '$' false).endWord.tokens
  | .name false false text => some (reader.push (.value text false)).endWord.tokens
  | .escape false => some (reader.add '\\' true).endWord.tokens
  | _ => none

end Reader

def tokens? (script : List Char) : Option (List Token) :=
  (script.foldl Reader.step Reader.start).finish

end BoardSmoke.Script
