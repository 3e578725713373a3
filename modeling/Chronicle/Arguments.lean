import Chronicle.Config
import Chronicle.Limits

/-!
The command line.  Options are long and take one value each, in the same argument after an equals
sign or in the next; one that is given is checked when the next one is met or the line ends, so the
first fault in this order is the one that is reported.
-/

namespace Chronicle

/-- What the command line asks for. -/
structure Arguments where
  config : String
  replay : Option String
  paceMillis : Nat
  exec : Option String
  headless : Bool
  logFile : Option String
  logLevel : String
  rows : Option Nat
  historyCap : Option Nat
  tickMillis : Option Nat
deriving DecidableEq, Repr, Inhabited

/-- Why a command line is refused, or asks only for help. -/
inductive ArgumentError where
  /-- No such option, or an argument that belongs to none. -/
  | unknown
  /-- An option without a value, or a path that is empty. -/
  | noValue
  /-- A value that is no 64-bit number. -/
  | notNumber
  /-- An option that is given twice. -/
  | repeated
  /-- A value for a flag. -/
  | unexpectedValue
  | help
deriving DecidableEq, Repr, Inhabited

def ArgumentError.message : ArgumentError → String
  | unknown => "unexpected argument"
  | noValue => "a value is required"
  | notNumber => "a value is not a number"
  | repeated => "an option is given twice"
  | unexpectedValue => "a value for an option that takes none"
  | help => "help is asked for"

namespace Arguments

/-- The configuration file when none is named. -/
def standardPath : String := "activity-timeline.toml"

/-- The arguments of an empty command line. -/
def standard : Arguments where
  config := standardPath
  replay := none
  paceMillis := 0
  exec := none
  headless := false
  logFile := none
  logLevel := "info"
  rows := none
  historyCap := none
  tickMillis := none

/-- The configuration with what the command line says instead. -/
def override (a : Arguments) (c : Config) : Config :=
  { c with
    rows := a.rows.getD c.rows
    historyCap := a.historyCap.getD c.historyCap
    tickMillis := a.tickMillis.getD c.tickMillis }

/-- An option that takes a value. -/
inductive Setting where
  | config
  | replay
  | paceMillis
  | exec
  | logFile
  | logLevel
  | rows
  | historyCap
  | tickMillis
deriving DecidableEq, Repr, Inhabited

namespace Setting

def all : List Setting :=
  [config, replay, paceMillis, exec, logFile, logLevel, rows, historyCap, tickMillis]

def name : Setting → String
  | config => "config"
  | replay => "replay"
  | paceMillis => "pace-ms"
  | exec => "exec"
  | logFile => "log-file"
  | logLevel => "log-level"
  | rows => "rows"
  | historyCap => "history-cap"
  | tickMillis => "tick-ms"

def ofName? (s : String) : Option Setting := all.find? (·.name = s)

end Setting

/-- A path, which is not empty. -/
def path (value : String) : Except ArgumentError String :=
  if value.isEmpty then .error .noValue else .ok value

def isDigit (c : Char) : Bool := '0' ≤ c && c ≤ '9'

/-- The digits of a number, without the plus sign that may come first. -/
def unsigned (value : String) : List Char :=
  match value.toList with
  | '+' :: ds => ds
  | ds => ds

/-- A 64-bit number in decimal digits. -/
def number (value : String) : Except ArgumentError Nat :=
  let ds := unsigned value
  let n := ds.foldl (fun n c => n * 10 + (c.toNat - '0'.toNat)) 0
  if ds.isEmpty || !ds.all isDigit || maxWord < n then .error .notNumber else .ok n

/-- The arguments with a value for a setting. -/
def set (a : Arguments) (setting : Setting) (value : String) : Except ArgumentError Arguments :=
  match setting with
  | .config => (path value).map fun p => { a with config := p }
  | .replay => (path value).map fun p => { a with replay := some p }
  | .paceMillis => (number value).map fun n => { a with paceMillis := n }
  | .exec => .ok { a with exec := some value }
  | .logFile => (path value).map fun p => { a with logFile := some p }
  | .logLevel => .ok { a with logLevel := value }
  | .rows => (number value).map fun n => { a with rows := some n }
  | .historyCap => (number value).map fun n => { a with historyCap := some n }
  | .tickMillis => (number value).map fun n => { a with tickMillis := some n }

/-- How to call the program. -/
def usage : String :=
  "Usage: chronicle [--headless] [--help]" ++
    String.join (Setting.all.map fun setting => " [--" ++ setting.name ++ " <value>]")

/-- A command line as far as it has been read: the settings met, and the last of them with its value
while that has not been checked. -/
structure Scan where
  arguments : Arguments
  given : List Setting
  pending : Option (Setting × Option String)
  /-- Two hyphens alone have been met; no option comes after them. -/
  closed : Bool
deriving DecidableEq, Repr, Inhabited

namespace Scan

def start : Scan := ⟨.standard, [], none, false⟩

/-- Takes over a value. -/
def assign (s : Scan) (setting : Setting) (value : String) : Except ArgumentError Scan :=
  if s.given.contains setting then .error .repeated
  else (s.arguments.set setting value).map fun arguments =>
    { s with arguments, given := setting :: s.given }

/-- Checks what is pending. -/
def resolve (s : Scan) : Except ArgumentError Scan :=
  match s.pending with
  | none => .ok s
  | some (_, none) => .error .noValue
  | some (setting, some value) => { s with pending := none }.assign setting value

/-- A long option, without its hyphens, and the value after its equals sign. -/
def long (s : Scan) (name : String) (value : Option String) : Except ArgumentError Scan :=
  if name = "headless" || name = "help" then
    if value.isSome then .error .unexpectedValue
    else s.resolve.bind fun s =>
      if name = "help" then .error .help
      else if s.arguments.headless then .error .repeated
      else .ok { s with arguments := { s.arguments with headless := true } }
  else match Setting.ofName? name with
    | none => .error .unknown
    | some setting =>
      s.resolve.bind fun s =>
        match value with
        | some value => s.assign setting value
        | none => .ok { s with pending := some (setting, none) }

/-- An argument that begins with one hyphen; only the one for help is known. -/
def short (s : Scan) (letters : List Char) : Except ArgumentError Scan :=
  match letters with
  | 'h' :: _ => s.resolve.bind fun _ => .error .help
  | _ => .error .unknown

/-- An argument that is no option: the value of the option before it. -/
def plain (s : Scan) (value : String) : Except ArgumentError Scan :=
  match s.pending with
  | some (setting, none) => .ok { s with pending := some (setting, some value) }
  | _ => .error .unknown

/-- A name and the value after the first equals sign. -/
def splitValue (cs : List Char) : String × Option String :=
  match cs.dropWhile (· ≠ '=') with
  | _ :: value => (String.ofList (cs.takeWhile (· ≠ '=')), some (String.ofList value))
  | [] => (String.ofList cs, none)

/-- One more argument. -/
def add (s : Scan) (argument : String) : Except ArgumentError Scan :=
  if s.closed then .error .unknown
  else match argument.toList with
    | ['-', '-'] => .ok { s with closed := true }
    | '-' :: '-' :: rest => let (name, value) := splitValue rest; s.long name value
    | ['-'] => s.plain argument
    | '-' :: letters => s.short letters
    | _ => s.plain argument

end Scan

/-- The arguments of a command line. -/
def parse (line : List String) : Except ArgumentError Arguments :=
  (line.foldlM Scan.add Scan.start).bind fun s => s.resolve.map (·.arguments)

end Arguments

end Chronicle
