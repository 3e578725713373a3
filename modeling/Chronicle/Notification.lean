import Chronicle.Message

/-!
Notifications: what a producer writes, one to a line, and the message each becomes.
-/

namespace Chronicle

inductive Notification where
  | thought (id text : String) (done : Bool)
  | toolStarted (id tool command : String)
  | toolProgress (id line : String) (bytes : Option Nat)
  | toolCompleted (id : String) (exitCodes : List Int) (exitCode : Option Int) (output : String)
      (summary : Option String)
  | fileEdit (id path : String) (added removed : Nat)
  | fileRead (id path : String) (ranges : List (Nat × Nat))
  | filesDeleted (id : String) (paths : List String)
  | log (id : Option String) (level : LogLevel) (message : String)
  | userInput (id author text : String)
  | userInputAck (id : Option String) (author text : String)
  | taskCompleted (id summary : String)
  | connectionError (reason : String)
  | connectionRestored
deriving DecidableEq, Repr, Inhabited

namespace Notification

/-- The message of a notification.  A line without a size has the size of its text, and a single
exit code comes after the others. -/
def toMessage : Notification → Message
  | thought id text done => .thoughtDelta (.producer id) text done
  | toolStarted id tool command => .toolStarted (.producer id) tool command
  | toolProgress id line bytes => .toolProgress (.producer id) line (bytes.getD line.utf8ByteSize)
  | toolCompleted id codes code output summary =>
    .toolCompleted (.producer id) (codes ++ code.toList) output summary
  | fileEdit id path added removed => .fileEdit (.producer id) path added removed
  | fileRead id path ranges => .fileRead (.producer id) path ranges
  | filesDeleted id paths => .filesDeleted (.producer id) paths
  | log id level message => .log (id.map .producer) level message
  | userInput id author text => .inputSubmitted (.producer id) author text
  | userInputAck id author text => .inputAcknowledged (id.map .producer) author text
  | taskCompleted id summary => .taskCompleted (.producer id) summary
  | connectionError reason => .connectionError reason
  | connectionRestored => .connectionRestored

end Notification

end Chronicle
