import Chronicle.Clock
import Chronicle.Timeline.Id
import Chronicle.Timeline.Pipeline

/-!
Entries of the timeline: what an action is, how far it has come, and when.
-/

namespace Chronicle

/-- How far an action has come. -/
inductive Status where
  | pending
  | running
  | completed
  | failed
deriving DecidableEq, Repr, Inhabited

/-- Nothing more happens to a finished action. -/
def Status.isFinished : Status → Bool
  | pending => false
  | running => false
  | completed => true
  | failed => true

/-- How much output a tool has written. -/
structure OutputSize where
  bytes : Nat
  lines : Nat
deriving DecidableEq, Repr, Inhabited

/-- A command run by a tool. -/
structure ToolUse where
  tool : String
  segments : List String
  exitCodes : List Int
  output : OutputSize
  lastLine : Option String
deriving DecidableEq, Repr, Inhabited

/-- A tool that has just been started on a command line. -/
def ToolUse.start (tool command : String) : ToolUse :=
  ⟨tool, Pipeline.segments command, [], ⟨0, 0⟩, none⟩

/-- What an entry is about. -/
inductive Kind where
  | toolUse (use : ToolUse)
  | fileEdit (path : String) (added removed : Nat)
  | fileRead (path : String) (ranges : List (Nat × Nat))
  | deleted (paths : List String)
  | thought (body : String)
  | instruction (author text : String) (confirmed : Bool)
  | taskCompleted (summary : String)
deriving DecidableEq, Repr, Inhabited

namespace Kind

def isToolUse : Kind → Bool
  | toolUse _ => true
  | _ => false

def isThought : Kind → Bool
  | thought _ => true
  | _ => false

def isInstruction : Kind → Bool
  | instruction _ _ _ => true
  | _ => false

/-- The text in which a search looks. -/
def searchText : Kind → String
  | toolUse use =>
    use.tool ++ " " ++ Pipeline.join use.segments ++ " " ++ use.lastLine.getD ""
  | fileEdit path _ _ => "edit " ++ path
  | fileRead path _ => "read " ++ path
  | deleted paths => "deleted " ++ " ".intercalate paths
  | thought body => body
  | instruction author text _ => author ++ ": " ++ text
  | taskCompleted summary => summary

end Kind

/-- One entry.  `sequence` counts the entries ever appended; `discarded` is set while the entry
lies below the point of a fork. -/
structure Entry where
  id : CorrelationId
  sequence : Nat
  kind : Kind
  status : Status
  started : Option Instant
  ended : Option Instant
  updated : Option Instant
  discarded : Bool
deriving DecidableEq, Repr, Inhabited

namespace Entry

def isRunning (e : Entry) : Bool := e.status == .running

/-- Ends an entry at `now`. -/
def finish (e : Entry) (status : Status) (now : Instant) : Entry :=
  { e with status, ended := some now, updated := some now }

/-- The time since the entry started: up to now, or up to its end once it is finished. -/
def elapsed (e : Entry) (now : Instant) : Option Duration :=
  e.started.map fun started =>
    match e.ended with
    | some ended => if e.status.isFinished then ended.since started else now.since started
    | none => now.since started

end Entry

end Chronicle
