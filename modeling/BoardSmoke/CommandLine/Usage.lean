import BoardSmoke.CommandLine.Setting
import BoardSmoke.Text.Wrapping

namespace BoardSmoke.Usage

def programName : String := "px4-smoke"

def version : String := "0.0.1"

def versionText : String := programName ++ " " ++ version

def about : String := "Flashes a PX4 board and smoke tests its serial console"

def indent : String := "    "

-- How the program is called. Settings that were used so far are listed by name.
def summary (used : List Setting) : String :=
  let options :=
    if used = [] then " [OPTIONS]"
    else String.join ((Setting.sorted used).map fun setting => " " ++ setting.usage)
  "USAGE:\n" ++ indent ++ programName ++ options

def columns : Nat := 120

def blanks (count : Nat) : String := String.ofList (List.replicate count ' ')

def longest : Nat := (Setting.all.map fun setting => setting.usage.length).foldl max 0

def column : Nat := longest + 12

def switch (setting : Setting) : String :=
  match setting.letter? with
  | some letter => "-" ++ String.singleton letter ++ ", "
  | none => indent

-- What is said about an option: its purpose, the variable with its value, and the default.
def explanation (setting : Setting) (value : Option Bytes) : String :=
  setting.help ++ " [env: " ++ setting.environment ++ "=" ++ Utf8.text (value.getD []) ++ "]  " ++
    "[default: " ++ setting.defaultText ++ "]"

-- The explanation in lines. One that would reach the last column is wrapped.
def explanationLines (text : String) : List String :=
  let lines := Text.lines text.toList
  let wrapped :=
    if columns ≤ column + Text.width text.toList then
      lines.flatMap (Text.wrap (columns - column))
    else lines
  wrapped.map String.ofList

def optionHelp (environment : String → Option Bytes) (setting : Setting) : String :=
  let head := indent ++ switch setting ++ setting.usage ++
    blanks (longest - setting.usage.length + 4)
  let lines := explanationLines (explanation setting (environment setting.environment))
  head ++ ("\n" ++ blanks column).intercalate lines

def help (environment : String → Option Bytes) : String :=
  versionText ++ "\n" ++ about ++ "\n\n" ++ summary [] ++ "\n\n" ++
  "FLAGS:\n    -h, --help       Prints help information\n" ++
  "    -V, --version    Prints version information\n\n" ++
  "OPTIONS:\n" ++
  "\n".intercalate ((Setting.sorted Setting.all).map (optionHelp environment))

end BoardSmoke.Usage
