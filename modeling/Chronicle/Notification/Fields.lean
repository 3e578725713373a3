import Chronicle.Limits
import Chronicle.Json.Basic
import Chronicle.Notification

/-!
Notifications as JSON values.  A notification is a record with a tag; its fields are written by
name, in any order and with fields of other names between them, or by place, in the order in which
`Tag.fields` lists them.  A field with a default may be left out, by place only if every field after
it is left out too.
-/

namespace Chronicle.Notification

/-- The kinds of notifications. -/
inductive Tag where
  | thought
  | toolStarted
  | toolProgress
  | toolCompleted
  | fileEdit
  | fileRead
  | filesDeleted
  | log
  | userInput
  | userInputAck
  | taskCompleted
  | connectionError
  | connectionRestored
deriving DecidableEq, Repr, Inhabited

namespace Tag

def all : List Tag :=
  [thought, toolStarted, toolProgress, toolCompleted, fileEdit, fileRead, filesDeleted, log,
    userInput, userInputAck, taskCompleted, connectionError, connectionRestored]

def name : Tag → String
  | thought => "thought"
  | toolStarted => "tool_started"
  | toolProgress => "tool_progress"
  | toolCompleted => "tool_completed"
  | fileEdit => "file_edit"
  | fileRead => "file_read"
  | filesDeleted => "files_deleted"
  | log => "log"
  | userInput => "user_input"
  | userInputAck => "user_input_ack"
  | taskCompleted => "task_completed"
  | connectionError => "connection_error"
  | connectionRestored => "connection_restored"

def ofName? (s : String) : Option Tag := all.find? (·.name = s)

/-- The names of the fields of a kind, in their places. -/
def fields : Tag → List String
  | thought => ["id", "text", "done"]
  | toolStarted => ["id", "tool_name", "command"]
  | toolProgress => ["id", "line", "bytes"]
  | toolCompleted => ["id", "exit_codes", "exit_code", "output", "summary"]
  | fileEdit => ["id", "path", "lines_added", "lines_removed"]
  | fileRead => ["id", "path", "ranges"]
  | filesDeleted => ["id", "paths"]
  | log => ["id", "level", "message"]
  | userInput => ["id", "author", "text"]
  | userInputAck => ["id", "author", "text"]
  | taskCompleted => ["id", "summary"]
  | connectionError => ["reason"]
  | connectionRestored => []

end Tag

/-- The member that holds the tag of a record whose fields are named. -/
def tagName : String := "type"

/-! ## Values of fields -/

def text? : Json → Option String
  | .text s => some s
  | _ => none

def flag? : Json → Option Bool
  | .bool b => some b
  | _ => none

/-- A 64-bit number without a sign. -/
def word? : Json → Option Nat
  | .whole n => if 0 ≤ n ∧ n ≤ (maxWord : Int) then some n.toNat else none
  | _ => none

/-- A 32-bit number with a sign. -/
def exitCode? : Json → Option Int
  | .whole n => if -0x80000000 ≤ n ∧ n < 0x80000000 then some n else none
  | _ => none

def listOf? {α : Type} (item? : Json → Option α) : Json → Option (List α)
  | .list items => items.mapM item?
  | _ => none

/-- Two 64-bit numbers. -/
def range? : Json → Option (Nat × Nat)
  | .list [a, b] => do
    let a ← word? a
    let b ← word? b
    return (a, b)
  | _ => none

/-- Nothing for `null`. -/
def orNull? {α : Type} (value? : Json → Option α) : Json → Option (Option α)
  | .null => some none
  | v => (value? v).map some

def levelOfName? (s : String) : Option LogLevel :=
  [LogLevel.error, .warn, .info, .debug, .trace].find? (·.name = s)

/-- A level by its name, alone or as the one key of an object that holds nothing. -/
def level? : Json → Option LogLevel
  | .text s => levelOfName? s
  | .object [(s, .null)] => levelOfName? s
  | .object [(s, .object [])] => levelOfName? s
  | _ => none

/-! ## Records -/

/-- The fields of a record: by name, or by place. -/
inductive Fields where
  | named (members : List (String × Json))
  | placed (items : List Json)

namespace Fields

/-- No field of the kind occurs twice, and no value has a place beyond the last field. -/
def fit (names : List String) : Fields → Bool
  | named members => names.all fun name => members.countP (·.1 = name) ≤ 1
  | placed items => items.length ≤ names.length

/-- The value of a field. -/
def get? (names : List String) (name : String) : Fields → Option Json
  | named members => members.lookup name
  | placed items => items[names.idxOf name]?

/-- A field that has to be there. -/
def required {α : Type} (names : List String) (fs : Fields) (name : String)
    (value? : Json → Option α) : Option α :=
  (fs.get? names name).bind value?

/-- A field with a default. -/
def withDefault {α : Type} (names : List String) (fs : Fields) (name : String)
    (value? : Json → Option α) (default : α) : Option α :=
  match fs.get? names name with
  | none => some default
  | some v => value? v

end Fields

def defaultTool : String := "shell"

def defaultAuthor : String := "agent"

/-- The notification of a kind whose fields are `fs`. -/
def ofFields? (tag : Tag) (fs : Fields) : Option Notification :=
  let required {α : Type} := fs.required (α := α) tag.fields
  let withDefault {α : Type} := fs.withDefault (α := α) tag.fields
  if !fs.fit tag.fields then none
  else match tag with
    | .thought => do
      return thought (← required "id" text?) (← required "text" text?)
        (← withDefault "done" flag? false)
    | .toolStarted => do
      return toolStarted (← required "id" text?) (← withDefault "tool_name" text? defaultTool)
        (← required "command" text?)
    | .toolProgress => do
      return toolProgress (← required "id" text?) (← required "line" text?)
        (← withDefault "bytes" (orNull? word?) none)
    | .toolCompleted => do
      return toolCompleted (← required "id" text?)
        (← withDefault "exit_codes" (listOf? exitCode?) [])
        (← withDefault "exit_code" (orNull? exitCode?) none)
        (← withDefault "output" text? "")
        (← withDefault "summary" (orNull? text?) none)
    | .fileEdit => do
      return fileEdit (← required "id" text?) (← required "path" text?)
        (← withDefault "lines_added" word? 0) (← withDefault "lines_removed" word? 0)
    | .fileRead => do
      return fileRead (← required "id" text?) (← required "path" text?)
        (← withDefault "ranges" (listOf? range?) [])
    | .filesDeleted => do
      return filesDeleted (← required "id" text?) (← required "paths" (listOf? text?))
    | .log => do
      return log (← withDefault "id" (orNull? text?) none)
        (← withDefault "level" level? .info) (← required "message" text?)
    | .userInput => do
      return userInput (← required "id" text?) (← withDefault "author" text? defaultAuthor)
        (← required "text" text?)
    | .userInputAck => do
      return userInputAck (← withDefault "id" (orNull? text?) none)
        (← withDefault "author" text? defaultAuthor) (← required "text" text?)
    | .taskCompleted => do
      return taskCompleted (← required "id" text?) (← required "summary" text?)
    | .connectionError => do
      return connectionError (← required "reason" text?)
    | .connectionRestored => some connectionRestored

end Chronicle.Notification
