import BoardSmoke.Record
import BoardSmoke.Text.Search

namespace BoardSmoke

-- How much detail passes: nothing, or everything up to a level.
inductive Threshold where
  | off
  | upTo (level : Level)
  deriving DecidableEq, Repr

namespace Threshold

def passes (threshold : Threshold) (level : Level) : Bool :=
  match threshold with
  | .off => false
  | .upTo most => level.detail ≤ most.detail

def all : Threshold := .upTo .trace

def ofName? (text : String) : Option Threshold :=
  let upper := String.ofList (text.toList.map Char.toUpper)
  if upper = "OFF" then some .off
  else (Level.all.find? (·.name = upper)).map .upTo

end Threshold

structure Directive where
  -- The start of the paths that it is for. None: all.
  path : Option String
  threshold : Threshold
  deriving DecidableEq, Repr

structure RecordFilter where
  directives : List Directive
  -- A part that the texts of records must have.
  part : Option String
  deriving DecidableEq, Repr

namespace RecordFilter

def upTo (level : Level) : RecordFilter := ⟨[⟨none, .upTo level⟩], none⟩

def readDirective (text : String) : Except String Directive :=
  match (text.splitOn "=").map (·.trimAscii.toString) with
  | [_] =>
    match Threshold.ofName? text with
    | some threshold => .ok ⟨none, threshold⟩
    | none => .ok ⟨some text, .all⟩
  | [_, level] =>
    let path := (text.splitOn "=").headD ""
    if level = "" then .ok ⟨some path, .all⟩
    else match Threshold.ofName? level with
      | some threshold => .ok ⟨some path, threshold⟩
      | none => .error level
  | _ => .error text

def complaint (text : String) : String :=
  "warning: invalid logging spec '" ++ text ++ "', ignoring it"

def readDirectives (texts : List String) : List Directive × List String :=
  texts.foldr (fun text (directives, complaints) =>
    if text = "" then (directives, complaints)
    else match readDirective text with
      | .ok directive => (directive :: directives, complaints)
      | .error text => (directives, complaint text :: complaints)) ([], [])

-- Without any directive only errors pass.
def orErrors (directives : List Directive) : List Directive :=
  if directives = [] then [⟨none, .upTo .error⟩] else directives

-- The filter that `text` describes: directives between commas, and perhaps a slash and a part that
-- texts must have. What cannot be read is left out and complained about.
def parse (text : String) : RecordFilter × List String :=
  match text.splitOn "/" with
  | [specs] =>
    let (directives, complaints) := readDirectives (specs.splitOn ",")
    (⟨orErrors directives, none⟩, complaints)
  | [specs, part] =>
    let (directives, complaints) := readDirectives (specs.splitOn ",")
    (⟨orErrors directives, some part⟩, complaints)
  | _ => (⟨orErrors [], none⟩, [complaint text ++ " (too many '/'s)"])

-- Of the directives for a path, the one for the longest start of it, and of several such the last.
def decisive? (filter : RecordFilter) (path : String) : Option Directive :=
  filter.directives.foldl (fun best directive =>
    let applies := match directive.path with
      | none => true
      | some start => start.toList.isPrefixOf path.toList
    let length (directive : Directive) : Nat := (directive.path.getD "").utf8ByteSize
    match applies, best with
    | false, _ => best
    | true, none => some directive
    | true, some other => if length directive < length other then best else some directive) none

def passes (filter : RecordFilter) (record : Record) : Bool :=
  let passesLevel := match filter.decisive? record.source.path with
    | some directive => directive.threshold.passes record.level
    | none => false
  let passesPart := match filter.part with
    | some part => Text.holds part.toList record.text.toList
    | none => true
  passesLevel && passesPart

end RecordFilter

end BoardSmoke
