import BoardSmoke.Process
import BoardSmoke.Script.Command

namespace BoardSmoke.Script

structure Machine where
  tree : FileTree
  name : String
  arguments : List String
  bindings : List (String × String)
  input : Bytes
  output : Bytes
  errors : Bytes
  last : Nat
  -- How the script ended, if it did.
  ending : Option Ending

namespace Machine

-- The number that stands for the process of the script.
def processNumber : String := "4242"

def isRunning (machine : Machine) : Bool := machine.ending.isNone

def value (machine : Machine) (name : List Char) : String :=
  let text := String.ofList name
  if text = "#" then toString machine.arguments.length
  else if text = "?" then toString machine.last
  else if text = "$" then processNumber
  else if text = "@" ∨ text = "*" then " ".intercalate machine.arguments
  else match Reader.digits? name with
    | some 0 => machine.name
    | some number => machine.arguments.getD (number - 1) ""
    | none => (machine.bindings.lookup text).getD ""

-- Fields that are being put together: the finished ones, and the one that may still grow.
structure Fields where
  done : List String
  open? : Option String

def Fields.grow (fields : Fields) (text : String) : Fields :=
  { fields with open? := some (fields.open?.getD "" ++ text) }

def Fields.cut (fields : Fields) : Fields :=
  ⟨fields.done ++ fields.open?.toList, none⟩

-- Several texts in one place of a word: the first belongs to what is before it, the last to what
-- is after it.
def Fields.spread (fields : Fields) : List String → Fields
  | [] => fields
  | [text] => fields.grow text
  | text :: texts => ((fields.grow text).cut).spread texts

def expandPiece (machine : Machine) (fields : Fields) : Piece → Fields
  | .literal text _ => fields.grow (String.ofList text)
  | .value ['@'] true => fields.spread machine.arguments
  | .value name true => fields.grow (machine.value name)
  | .value name false =>
    fields.spread ((Text.words (machine.value name).toList).map String.ofList)

-- Quotes around all the arguments make no field of their own.
def isAllArguments (word : Word) : Bool := word.contains (.value ['@'] true)

def expand (machine : Machine) (word : Word) : List String :=
  let pieces := if isAllArguments word then word.filter (· ≠ .literal [] true) else word
  (pieces.foldl machine.expandPiece ⟨[], none⟩).cut.done

def complain (machine : Machine) (code : Nat) (text : String) : Machine :=
  { machine with
    errors := machine.errors ++ Utf8.bytes (machine.name ++ ": " ++ text ++ "\n"), last := code }

inductive Target where
  | ordinary
  | diagnostic
  | file (path : Bytes)

def targetOf (targets : Target × Target) (stream : Nat) : Target :=
  if stream = 2 then targets.2 else targets.1

def withTarget (targets : Target × Target) (stream : Nat) (target : Target) : Target × Target :=
  if stream = 2 then (targets.1, target) else (target, targets.2)

-- Prepares the redirections of a command: files are made empty unless they are to be appended to.
def redirect (machine : Machine) (targets : Target × Target) :
    List Redirection → Except String (Target × Target × FileTree)
  | [] => .ok (targets.1, targets.2, machine.tree)
  | .toStream stream other :: rest =>
    redirect machine (withTarget targets stream (targetOf targets other)) rest
  | .toFile stream append path :: rest =>
    let name := " ".intercalate (machine.expand path)
    let place := Utf8.bytes name
    let prepared : Except Errno FileTree := match append, machine.tree.locate place true with
      | true, .ok (.taken _ (.file ..)) => .ok machine.tree
      | _, _ => machine.tree.overwrite place [] false
    match prepared with
    | .error errno => .error ("cannot create " ++ name ++ ": " ++ errno.text)
    | .ok tree => redirect { machine with tree } (withTarget targets stream (.file place)) rest

def deliver (machine : Machine) (text : Bytes) : Target → Machine
  | .ordinary => { machine with output := machine.output ++ text }
  | .diagnostic => { machine with errors := machine.errors ++ text }
  | .file path =>
    let before := match machine.tree.readFile path with
      | .ok content => content
      | .error _ => []
    { machine with tree := (machine.tree.writeFile path (before ++ text)).2 }

-- Runs a command with its streams redirected.
def withRedirections (machine : Machine) (redirections : List Redirection)
    (run : Machine → Machine) : Machine :=
  match machine.redirect (.ordinary, .diagnostic) redirections with
  | .error text => machine.complain 2 text
  | .ok (output, errors, tree) =>
    let after := run { machine with tree, output := [], errors := [] }
    let settled := { after with output := machine.output, errors := machine.errors }
    (settled.deliver after.output output).deliver after.errors errors

def signal? (name : String) : Option Nat :=
  match name.toNat? with
  | some number => some number
  | none =>
    let bare := if name.startsWith "SIG" then (name.drop 3).toString else name
    (ExitStatus.signalNames.idxOf? bare).map (· + 1)

-- Signals that do not end a process.
def isHarmless (signal : Nat) : Bool := signal ∈ [0, 17, 18, 23, 28]

def kill (machine : Machine) (signal : Option Nat) (processes : List String) : Machine :=
  match signal with
  | none => machine.complain 2 "kill: Illegal number"
  | some signal =>
    if processes = [processNumber] then
      if isHarmless signal then { machine with last := 0 }
      else { machine with ending := some (.signal signal) }
    else machine.complain 1 "kill: No such process"

def absorb (machine : Machine) (outcome : Outcome) : Machine :=
  { machine with
    tree := outcome.tree
    output := machine.output ++ outcome.output
    errors := machine.errors ++ outcome.errors
    last := match outcome.ending with
      | .exit code => code % 256
      | .signal number => 128 + number }

def launch (machine : Machine) (program : String) (arguments : List String) : Machine :=
  match SystemProgram.run? program arguments machine.input machine.tree with
  | some outcome => machine.absorb outcome
  | none => machine.complain 127 (program ++ ": not found")

def invoke (machine : Machine) : List String → Machine
  | [] => { machine with last := 0 }
  | command :: arguments =>
    match command, arguments with
    | ":", _ => { machine with last := 0 }
    | "exit", [] => { machine with ending := some (.exit machine.last) }
    | "exit", code :: _ =>
      match code.toNat? with
      | some code => { machine with ending := some (.exit code) }
      | none =>
        { machine.complain 2 ("exit: Illegal number: " ++ code) with ending := some (.exit 2) }
    | "kill", "-s" :: name :: processes => machine.kill (signal? name) processes
    | "kill", first :: processes =>
      if first.startsWith "-" then machine.kill (signal? (first.drop 1).toString) processes
      else machine.kill (some 15) (first :: processes)
    | "shift", _ => { machine with arguments := machine.arguments.tail, last := 0 }
    | "echo", _ => machine.absorb (SystemProgram.echo true arguments machine.tree)
    | "exec", program :: arguments =>
      let after := machine.launch program arguments
      { after with ending := some (.exit after.last) }
    | _, _ => machine.launch command arguments

def assignment? (text : String) : Option (String × String) :=
  let name := text.toList.takeWhile (· ≠ '=')
  if name ≠ [] ∧ name.all Reader.isNameChar ∧ name.length < text.length then
    some (String.ofList name, String.ofList (text.toList.drop (name.length + 1)))
  else none

def assign (machine : Machine) (name value : String) : Machine :=
  { machine with bindings := (name, value) :: machine.bindings }

mutual

def execute : Nat → Command → Machine → Machine
  | 0, _, machine => machine
  | fuel + 1, command, machine =>
    match command with
    | .simple words redirections =>
      machine.withRedirections redirections fun machine =>
        match words.flatMap machine.expand with
        | [field] =>
          match assignment? field with
          | some (name, value) => { machine.assign name value with last := 0 }
          | none => machine.invoke [field]
        | fields => machine.invoke fields
    | .forEach name values body redirections =>
      machine.withRedirections redirections fun machine =>
        (values.flatMap machine.expand).foldl (fun machine value =>
          executeAll fuel body (machine.assign (String.ofList name) value)) machine
    | .choice condition yes no =>
      let machine := executeAll fuel condition machine
      if machine.last = 0 then executeAll fuel yes machine
      else executeAll fuel no { machine with last := 0 }
    | .pipeline stages => executeStages fuel stages machine
    | .both first second =>
      let machine := execute fuel first machine
      if machine.isRunning ∧ machine.last = 0 then execute fuel second machine else machine
    | .either first second =>
      let machine := execute fuel first machine
      if machine.isRunning ∧ machine.last ≠ 0 then execute fuel second machine else machine

-- Each stage runs in a shell of its own and reads what the one before it prints.
def executeStages : Nat → List Command → Machine → Machine
  | 0, _, machine => machine
  | _, [], machine => machine
  | fuel + 1, stage :: stages, machine =>
    let after := execute fuel stage { machine with output := [] }
    let code := match after.ending with
      | some (.exit code) => code % 256
      | some (.signal number) => 128 + number
      | none => after.last
    let next := { machine with tree := after.tree, errors := after.errors, last := code }
    if stages = [] then { next with output := machine.output ++ after.output }
    else
      let last := executeStages fuel stages { next with input := after.output }
      { last with input := machine.input }

def executeAll : Nat → List Command → Machine → Machine
  | 0, _, machine => machine
  | _, [], machine => machine
  | fuel + 1, command :: commands, machine =>
    if machine.isRunning then executeAll fuel commands (execute fuel command machine)
    else machine

end

end Machine

def run (text : List Char) (name : String) (arguments : List String) (tree : FileTree) :
    Outcome :=
  let machine : Machine := ⟨tree, name, arguments, [], [], [], [], 0, none⟩
  match commands? text with
  | none => .complains tree 2 (name ++ ": Syntax error")
  | some commands =>
    let after := machine.executeAll (text.length + 8) commands
    ⟨after.ending.getD (.exit after.last), after.output, after.errors, after.tree⟩

end BoardSmoke.Script
