import BoardSmoke.Script.Word

namespace BoardSmoke.Script

inductive Redirection where
  | toFile (stream : Nat) (append : Bool) (path : Word)
  | toStream (stream other : Nat)
  deriving DecidableEq, Repr

inductive Command where
  | simple (words : List Word) (redirections : List Redirection)
  | forEach (name : List Char) (values : List Word) (body : List Command)
      (redirections : List Redirection)
  | choice (condition yes no : List Command)
  | pipeline (stages : List Command)
  -- The second command runs only if the first one succeeds, or only if it fails.
  | both (first second : Command)
  | either (first second : Command)

namespace Command

def bareText? : Word → Option (List Char)
  | [.literal text false] => some text
  | _ => none

def isKeyword (keyword : String) : List Token → Bool
  | .word word :: _ => bareText? word = some keyword.toList
  | _ => false

def dropNewlines (tokens : List Token) : List Token :=
  tokens.dropWhile fun token => token = .mark '\n' || token = .mark ';'

def expect? (keyword : String) (tokens : List Token) : Option (List Token) :=
  let tokens := dropNewlines tokens
  if isKeyword keyword tokens then some tokens.tail else none

-- A redirection of `stream` whose arrow has been read.
def redirection? (stream : Nat) : List Token → Option (Redirection × List Token)
  | .mark '>' :: .word path :: rest => some (.toFile stream true path, rest)
  | .mark '&' :: .word word :: rest =>
    match bareText? word with
    | some text => (Reader.digits? text).map fun other => (.toStream stream other, rest)
    | none => none
  | .word path :: rest => some (.toFile stream false path, rest)
  | _ => none

def simple? : Nat → List Token → Option (List Word × List Redirection × List Token)
  | 0, _ => none
  | fuel + 1, tokens =>
    match tokens with
    | .word word :: rest => do
      let (words, redirections, rest) ← simple? fuel rest
      some (word :: words, redirections, rest)
    | .mark '>' :: rest => do
      let (redirection, rest) ← redirection? 1 rest
      let (words, redirections, rest) ← simple? fuel rest
      some (words, redirection :: redirections, rest)
    | .stream number :: .mark '>' :: rest => do
      let (redirection, rest) ← redirection? number rest
      let (words, redirections, rest) ← simple? fuel rest
      some (words, redirection :: redirections, rest)
    | rest => some ([], [], rest)

def endsBlock (tokens : List Token) : Bool :=
  ["done", "then", "else", "fi"].any fun keyword => isKeyword keyword tokens

mutual

def command? : Nat → List Token → Option (Command × List Token)
  | 0, _ => none
  | fuel + 1, tokens =>
    if isKeyword "for" tokens then
      match tokens.tail with
      | .word name :: rest => do
        let name ← bareText? name
        let rest ← expect? "in" rest
        let (values, _, rest) ← simple? fuel rest
        let rest ← expect? "do" rest
        let (body, rest) ← block? fuel rest
        let rest ← expect? "done" rest
        let (_, redirections, rest) ← simple? fuel rest
        some (.forEach name values body redirections, rest)
      | _ => none
    else if isKeyword "if" tokens then do
      let (condition, rest) ← block? fuel tokens.tail
      let rest ← expect? "then" rest
      let (yes, rest) ← block? fuel rest
      let (no, rest) ← match expect? "else" rest with
        | some rest => block? fuel rest
        | none => some ([], rest)
      let rest ← expect? "fi" rest
      some (.choice condition yes no, rest)
    else do
      let (words, redirections, rest) ← simple? fuel tokens
      if words = [] ∧ redirections = [] then none
      else some (.simple words redirections, rest)

def pipeline? : Nat → List Token → Option (List Command × List Token)
  | 0, _ => none
  | fuel + 1, tokens => do
    let (first, rest) ← command? fuel tokens
    match rest with
    | .mark '|' :: .mark '|' :: _ => some ([first], rest)
    | .mark '|' :: rest => do
      let (stages, rest) ← pipeline? fuel rest
      some (first :: stages, rest)
    | rest => some ([first], rest)

def ofStages : List Command → Command
  | [stage] => stage
  | stages => .pipeline stages

-- Pipelines that depend on how the one before ended.
def chain? : Nat → Option (Bool × Command) → List Token → Option (Command × List Token)
  | 0, _, _ => none
  | fuel + 1, before, tokens => do
    let (stages, rest) ← pipeline? fuel tokens
    let command := match before with
      | none => ofStages stages
      | some (true, first) => .both first (ofStages stages)
      | some (false, first) => .either first (ofStages stages)
    match rest with
    | .mark '&' :: .mark '&' :: rest => chain? fuel (some (true, command)) rest
    | .mark '|' :: .mark '|' :: rest => chain? fuel (some (false, command)) rest
    | rest => some (command, rest)

def block? : Nat → List Token → Option (List Command × List Token)
  | 0, _ => none
  | fuel + 1, tokens =>
    let tokens := dropNewlines tokens
    if tokens = [] ∨ endsBlock tokens then some ([], tokens)
    else do
      let (command, rest) ← chain? fuel none tokens
      match rest with
      | [] => some ([command], [])
      | .mark mark :: _ =>
        if mark = ';' ∨ mark = '\n' then do
          let (commands, rest) ← block? fuel rest
          some (command :: commands, rest)
        else none
      | _ => if endsBlock rest then some ([command], rest) else none

end

end Command

def commands? (script : List Char) : Option (List Command) := do
  let tokens ← tokens? script
  let (commands, rest) ← Command.block? (8 * tokens.length + 8) tokens
  if rest = [] then some commands else none

end BoardSmoke.Script
