import Chronicle.Mailbox
import Chronicle.Notification.Decode
import Chronicle.Text.Lines
import Chronicle.Text.Utf8

/-!
Replaying a file of notifications into a mailbox, line by line.  Blank lines are passed over, and
lines that hold no notification are counted and skipped; a line that is not text ends the replay
with an error, and a mailbox whose owner is gone ends it quietly.
-/

namespace Chronicle

/-- How many notifications were delivered, and how many lines held none. -/
structure ReplaySummary where
  delivered : Nat
  skipped : Nat
deriving DecidableEq, Repr, Inhabited

/-- Why a replay ended before its file did. -/
inductive ReplayError where
  | notText
deriving DecidableEq, Repr, Inhabited

def ReplayError.message : ReplayError → String
  | notText => "I/O error: stream did not contain valid UTF-8"

namespace Replay

/-- What becomes of a line. -/
inductive Line where
  | blank
  | skipped
  | message (m : Message)
deriving DecidableEq, Repr, Inhabited

/-- Looks at the text of a numbered line. -/
def readLine (number : Nat) (text : String) : Line :=
  if Text.allBlank text then .blank
  else match Notification.decodeLine number text with
    | .error _ => .skipped
    | .ok n => .message n.toMessage

/-- Replays the lines from number `number` on. -/
def run (number : Nat) (b : Mailbox) (summary : ReplaySummary) :
    List (List UInt8) → Except ReplayError ReplaySummary × Mailbox
  | [] => (.ok summary, b)
  | bytes :: rest =>
    match Text.Utf8.decodeString bytes with
    | none => (.error .notText, b)
    | some text =>
      match readLine number text with
      | .blank => run (number + 1) b summary rest
      | .skipped => run (number + 1) b { summary with skipped := summary.skipped + 1 } rest
      | .message m =>
        match b.send m with
        | (false, b) => (.ok summary, b)
        | (true, b) => run (number + 1) b { summary with delivered := summary.delivered + 1 } rest

end Replay

/-- Replays the lines of a file. -/
def replay (b : Mailbox) (bytes : List UInt8) : Except ReplayError ReplaySummary × Mailbox :=
  Replay.run 1 b ⟨0, 0⟩ (Text.byteLines bytes)

end Chronicle
