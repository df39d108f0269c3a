import BoardSmoke.CommandLine.Suggestion
import BoardSmoke.CommandLine.Usage

namespace BoardSmoke

inductive Refusal where
  -- Help or the version was asked for.
  | help (text : String)
  | version
  | unknownArgument (argument : String) (suggestion : Option String) (used : List Setting)
  | invalidValue (setting : Setting) (reason : String)
  | givenTwice (setting : Setting)
  -- A value or an unknown option is no text.
  | notText
  deriving DecidableEq, Repr

namespace Refusal

def isError : Refusal → Bool
  | .help _ => false
  | .version => false
  | _ => true

def closing (used : List Setting) : String :=
  "\n\n" ++ Usage.summary used ++ "\n\nFor more information try --help"

def message : Refusal → String
  | .help text => text
  | .version => ""
  | .unknownArgument argument suggestion used =>
    let hint := match suggestion with
      | some name => "\n\tDid you mean --" ++ name ++ "?"
      | none => ""
    "error: Found argument '" ++ argument ++
      "' which wasn't expected, or isn't valid in this context" ++ hint ++ closing used
  | .invalidValue setting reason =>
    "error: Invalid value for '" ++ setting.usage ++ "': " ++ reason
  | .givenTwice setting =>
    "error: The argument '" ++ setting.usage ++
      "' was provided more than once, but cannot be used multiple times" ++ closing Setting.all
  | .notText => "unexpected invalid UTF-8 code point"

end Refusal

structure Given where
  setting : Setting
  value : Option Bytes
  deriving DecidableEq, Repr

namespace CommandLine

def hyphen : UInt8 := 0x2D
def equals : UInt8 := 0x3D

def endOfOptions : Bytes := [hyphen, hyphen]

def bare (argument : Bytes) : Bytes := argument.dropWhile (· = hyphen)

-- The value after an equals sign. Further ones before the value are dropped, too.
def trimEquals (value : Bytes) : Bytes := value.dropWhile (· = equals)

-- The names that a mistyped long name is compared with.
def longNames : List String := ["help", "version"] ++ Setting.all.map (·.long)

def used (given : List Given) : List Setting := (given.map (·.setting)).eraseDups

-- An unknown long name. The option that is suggested for it counts as used.
def unknownLong (given : List Given) (name : Bytes) (rest : List Bytes) : Refusal :=
  if (name :: rest).all fun argument => (Utf8.text? argument).isSome then
    let text := Utf8.text name
    let suggestion := Suggestion.best? text longNames
    let hinted := suggestion.toList.filterMap fun long => Setting.ofLong? (Utf8.bytes long)
    .unknownArgument ("--" ++ text) suggestion ((used given ++ hinted).eraseDups)
  else .notText

def unknown (given : List Given) (argument : String) : Refusal :=
  .unknownArgument argument none (used given)

-- The outcome of one argument: an option, and whether its value is still to come.
abbrev Step := Except Refusal (Given × Bool)

def option (setting : Setting) : Option Bytes → Step
  | some value => .ok (⟨setting, some (trimEquals value)⟩, false)
  | none => .ok (⟨setting, none⟩, true)

-- An argument with two hyphens: a long name, perhaps with a value after an equals sign.
def longOption (help : String) (given : List Given) (argument : Bytes) (rest : List Bytes) :
    Step :=
  let name := (bare argument).takeWhile (· ≠ equals)
  let value := (bare argument).drop name.length
  match Setting.ofLong? name with
  | some setting => option setting (if value = [] then none else some value)
  | none =>
    if name = Utf8.bytes "help" then .error (.help help)
    else if name = Utf8.bytes "version" then .error .version
    else .error (unknownLong given name rest)

-- An argument with one hyphen: a letter, perhaps with a value right after it.
def shortOption (help : String) (given : List Given) (argument : Bytes) : Step :=
  match Utf8.decode (bare argument) with
  | [] => .error (unknown given (Utf8.text argument))
  | letter :: _ =>
    match Setting.ofLetter? letter with
    | some setting =>
      let value := (bare argument).tail
      option setting (if value = [] then none else some value)
    | none =>
      if letter = 'h' then .error (.help help)
      else if letter = 'V' then .error .version
      else .error (unknown given ("-" ++ String.singleton letter))

def startsWithHyphen (argument : Bytes) : Bool :=
  argument.head? = some hyphen && argument ≠ [hyphen]

-- Takes the arguments in turn. An argument without a hyphen is the value of the option before it,
-- if that waits for one, and unknown otherwise. After the end of options nothing is known.
def scan (help : String) (given : List Given) (waiting : Option Setting) :
    List Bytes → Except Refusal (List Given)
  | [] => .ok (given ++ (waiting.map (⟨·, none⟩)).toList)
  | argument :: rest =>
    let seen := given ++ (waiting.map (⟨·, none⟩)).toList
    if argument = endOfOptions then
      match rest with
      | [] => .ok seen
      | first :: _ => .error (unknown seen (Utf8.text first))
    else if startsWithHyphen argument then
      let step :=
        if endOfOptions.isPrefixOf argument then longOption help seen argument rest
        else shortOption help seen argument
      match step with
      | .error refusal => .error refusal
      | .ok (option, waits) =>
        if waits then scan help seen (some option.setting) rest
        else scan help (seen ++ [option]) none rest
    else match waiting with
      | some setting => scan help (given ++ [⟨setting, some argument⟩]) none rest
      | none => .error (unknown given (Utf8.text argument))

-- All values for a setting: those on the command line, then the one of the environment variable,
-- and the default if there is no other.
def values (environment : String → Option Bytes) (given : List Given) (setting : Setting) :
    List Bytes :=
  let own := (given.filter (·.setting = setting)).filterMap (·.value)
  let all := own ++ (environment setting.environment).toList
  if all = [] then [Utf8.bytes setting.defaultText] else all

def validate (now : Nat) (environment : String → Option Bytes) (given : List Given)
    (setting : Setting) : Except Refusal Unit := do
  (values environment given setting).forM fun value =>
    (setting.check now (Utf8.text value)).mapError (.invalidValue setting)
  if 1 < (given.filter (·.setting = setting)).length then .error (.givenTwice setting)

def valueOf (environment : String → Option Bytes) (given : List Given) (setting : Setting) :
    Bytes :=
  (values environment given setting).headD []

def config (now : Nat) (value : Setting → Bytes) : Except Refusal Config := do
  let text (setting : Setting) : Except Refusal String :=
    match Utf8.text? (value setting) with
    | some text => .ok text
    | none => .error .notText
  let seconds (setting : Setting) : Except Refusal Duration := do
    let text ← text setting
    (Seconds.parse now text).mapError fun error => .invalidValue setting (error.message text)
  let device ← text .serialDevice
  let baudRate ← (Natural.parse Setting.baudLimit (← text .baudRate)).mapError
    fun error => .invalidValue .baudRate error.message
  let readTimeout ← seconds .readTimeout
  let buildTool ← text .buildTool
  let buildTarget ← text .buildTarget
  let bootCapture ← seconds .bootCapture
  let versionSettle ← seconds .versionSettle
  let showSettle ← seconds .paramSettle
  let setSettle ← seconds .setSettle
  let logRoot := value .logRoot
  let parameter ← text .paramName
  let probeValue ← text .probeValue
  let fallbackValue ← text .fallbackValue
  .ok { device, baudRate, readTimeout, buildTool, buildTarget, bootCapture, versionSettle,
        showSettle, setSettle, logRoot, parameter, probeValue, fallbackValue }

-- The settings that arguments and environment ask for. The clock reads `now`.
def parse (now : Nat) (environment : String → Option Bytes) (arguments : List Bytes) :
    Except Refusal Config := do
  let given ← scan (Usage.help environment) [] none arguments
  Setting.all.forM (validate now environment given)
  config now (valueOf environment given)

end CommandLine

end BoardSmoke
