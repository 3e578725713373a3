import Chronicle.Stream

/-!
Running a command as a tool.  Its output is streamed into the entry of the tool line by line, one
pump to each of its two outputs; when it has ended and the pumps have, the completion follows.
-/

namespace Chronicle

/-- How a command ended. -/
inductive ProcessEnd where
  | exited (code : Int)
  /-- A signal ended it. -/
  | killed
  | notStarted (reason : String)
  /-- It could not be waited for. -/
  | lost (reason : String)
deriving DecidableEq, Repr, Inhabited

namespace ProcessEnd

/-- The exit code that is reported; a command that did not exit by itself has none of its own. -/
def code : ProcessEnd → Int
  | exited code => code
  | killed => -1
  | notStarted _ => -1
  | lost _ => -1

/-- What is said about the end; `isStopped` when the user has cancelled the command. -/
def summary (isStopped : Bool) : ProcessEnd → Option String
  | exited _ => if isStopped then some "Stopped" else none
  | killed => if isStopped then some "Stopped" else none
  | notStarted reason => some ("failed to start: " ++ reason)
  | lost reason => some ("wait failed: " ++ reason)

/-- The message that completes the tool `id`. -/
def completion (e : ProcessEnd) (id : CorrelationId) (isStopped : Bool) : Message :=
  .toolCompleted id [e.code] "" (e.summary isStopped)

end ProcessEnd

/-- One of the two outputs of a command. -/
inductive Output where
  | standard
  | error
deriving DecidableEq, Repr, Inhabited

/-- What a command has done: what it wrote, in the order in which it wrote it, and its end. -/
structure ProcessRun where
  writes : List (Output × List UInt8)
  ending : ProcessEnd
deriving DecidableEq, Repr, Inhabited

namespace ProcessRun

/-- The bytes written to one output. -/
def written (r : ProcessRun) (o : Output) : List UInt8 :=
  r.writes.flatMap fun w => if w.1 = o then w.2 else []

/-- All messages of a command that runs as the tool `id` and streams into `u`: what the pumps
forward, one pump after the other, and the completion.  A command that is cancelled before it starts
forwards nothing and is killed. -/
def messages (r : ProcessRun) (id : CorrelationId) (u : Subscription) (isAlive isStopped : Bool) :
    List Message :=
  if isStopped then [ProcessEnd.killed.completion id true]
  else
    u.pump (fun _ => isAlive) (r.written .standard) ++ u.pump (fun _ => isAlive) (r.written .error) ++
      [r.ending.completion id false]

end ProcessRun

end Chronicle
