import Chronicle.Config
import Chronicle.Text.Utf8
import Chronicle.Theme.Reader

/-!
Reading a configuration.  Every section and every field may be left out; what is unknown is passed
over.
-/

namespace Chronicle.Config

/-- The sections, in their places. -/
def sectionNames : List String := ["timeline", "viewport", "ticker", "instructions", "theme"]

def timelineNames : List String := ["history_cap", "retired_ids"]

def viewportNames : List String := ["rows"]

def tickerNames : List String := ["interval_ms"]

def instructionNames : List String := ["confirm_similarity", "author"]

/-- The configuration that fields describe. -/
def ofFields? (fs : Fields) : Option Config := do
  let fieldsOf (name : String) : Option Fields :=
    fs.withDefault sectionNames name Fields.of? (.named [])
  let timeline ← fieldsOf "timeline"
  let viewport ← fieldsOf "viewport"
  let ticker ← fieldsOf "ticker"
  let instructions ← fieldsOf "instructions"
  let theme ← fieldsOf "theme"
  return {
    historyCap := ← timeline.withDefault timelineNames "history_cap" word? standard.historyCap
    retiredIds := ← timeline.withDefault timelineNames "retired_ids" word? standard.retiredIds
    rows := ← viewport.withDefault viewportNames "rows" word? standard.rows
    tickMillis := ← ticker.withDefault tickerNames "interval_ms" word? standard.tickMillis
    confirmSimilarity :=
      ← instructions.withDefault instructionNames "confirm_similarity" double?
        standard.confirmSimilarity
    author := ← instructions.withDefault instructionNames "author" text? standard.author
    theme := ← Theme.ofFields? theme }

/-- The configuration that the text of a TOML document describes. -/
def read? (s : String) : Option Config := do
  ofFields? (.named (← Toml.read s))

/-! ## Files -/

/-- Why a file cannot be read. -/
inductive FileFault where
  | missing
  | directory
  | notText
  /-- Some other reason, as the system words it. -/
  | other (reason : String)
deriving DecidableEq, Repr, Inhabited

def FileFault.reason : FileFault → String
  | missing => "No such file or directory (os error 2)"
  | directory => "Is a directory (os error 21)"
  | notText => "stream did not contain valid UTF-8"
  | other reason => reason

/-- Why there is no configuration in a file. -/
inductive LoadError where
  | unreadable (fault : FileFault)
  | unparsable
deriving DecidableEq, Repr, Inhabited

/-- The message about a file at a path that cannot be read. -/
def FileFault.message (path : String) (fault : FileFault) : String :=
  "failed to read config file '" ++ path ++ "': " ++ fault.reason

/-- The configuration in a file, given its bytes. -/
def load (file : Except FileFault (List UInt8)) : Except LoadError Config :=
  match file with
  | .error fault => .error (.unreadable fault)
  | .ok contents =>
    match Text.Utf8.decodeString contents with
    | none => .error (.unreadable .notText)
    | some s =>
      match read? s with
      | some c => .ok c
      | none => .error .unparsable

/-- The configuration in a file, or the standard one. -/
def loadOrStandard (file : Except FileFault (List UInt8)) : Config :=
  match load file with
  | .ok c => c
  | .error _ => standard

end Chronicle.Config
