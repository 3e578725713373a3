import Chronicle.Timeline.Store

/-!
Messages: everything that can reach the session, from producers and from the user.
-/

namespace Chronicle

inductive LogLevel where
  | error
  | warn
  | info
  | debug
  | trace
deriving DecidableEq, Repr, Inhabited

def LogLevel.name : LogLevel → String
  | error => "error"
  | warn => "warn"
  | info => "info"
  | debug => "debug"
  | trace => "trace"

/-- What the user asks for. -/
inductive Command where
  | moveForkUp
  | moveForkDown
  | cancelFork
  | forkAt (position : Nat)
  /-- Fork below the entry drawn on a row of the timeline. -/
  | forkAtRow (row : Nat)
  | navigateUp
  | navigateDown
  | scrollUp (n : Nat)
  | scrollDown (n : Nat)
  | pageUp
  | pageDown
  | scrollToTop
  | scrollToEnd
  | resize (rows : Nat)
  | stopHero
  | draftChar (c : Char)
  | draftBackspace
  | submitDraft
  | search (query : String)
  | searchNext
  | searchPrevious
  | quit
deriving DecidableEq, Repr, Inhabited

namespace Command

/-- The name of a command's kind. -/
def name : Command → String
  | moveForkUp => "move_fork_up"
  | moveForkDown => "move_fork_down"
  | cancelFork => "cancel_fork"
  | forkAt _ => "fork_at"
  | forkAtRow _ => "fork_at_row"
  | navigateUp => "navigate_up"
  | navigateDown => "navigate_down"
  | scrollUp _ => "scroll_up"
  | scrollDown _ => "scroll_down"
  | pageUp => "page_up"
  | pageDown => "page_down"
  | scrollToTop => "scroll_to_top"
  | scrollToEnd => "scroll_to_end"
  | resize _ => "resize"
  | stopHero => "stop_hero"
  | draftChar _ => "draft_char"
  | draftBackspace => "draft_backspace"
  | submitDraft => "submit_draft"
  | search _ => "search"
  | searchNext => "search_next"
  | searchPrevious => "search_previous"
  | quit => "quit"

/-- The commands that need nothing but their name. -/
def plain : List Command :=
  [moveForkUp, moveForkDown, cancelFork, navigateUp, navigateDown, pageUp, pageDown, scrollToTop,
    scrollToEnd, stopHero, draftBackspace, submitDraft, searchNext, searchPrevious, quit]

end Command

inductive Message where
  | thoughtDelta (id : CorrelationId) (text : String) (done : Bool)
  | toolStarted (id : CorrelationId) (tool command : String)
  | toolProgress (id : CorrelationId) (line : String) (bytes : Nat)
  | toolCompleted (id : CorrelationId) (exitCodes : List Int) (output : String)
      (summary : Option String)
  /-- Output streamed into the entry of a key. -/
  | streamDelta (target : Key) (chunk : String)
  | fileEdit (id : CorrelationId) (path : String) (added removed : Nat)
  | fileRead (id : CorrelationId) (path : String) (ranges : List (Nat × Nat))
  | filesDeleted (id : CorrelationId) (paths : List String)
  | log (id : Option CorrelationId) (level : LogLevel) (message : String)
  | inputSubmitted (id : CorrelationId) (author text : String)
  | inputAcknowledged (id : Option CorrelationId) (author text : String)
  | taskCompleted (id : CorrelationId) (summary : String)
  | connectionError (reason : String)
  | connectionRestored
  | command (c : Command)
deriving DecidableEq, Repr, Inhabited

/-- The name of a message's kind. -/
def Message.label : Message → String
  | thoughtDelta .. => "thought_delta"
  | toolStarted .. => "tool_started"
  | toolProgress .. => "tool_progress"
  | toolCompleted .. => "tool_completed"
  | streamDelta .. => "stream_delta"
  | fileEdit .. => "file_edit"
  | fileRead .. => "file_read"
  | filesDeleted .. => "files_deleted"
  | log .. => "log"
  | inputSubmitted .. => "user_input_submitted"
  | inputAcknowledged .. => "user_input_acknowledged"
  | taskCompleted .. => "task_completed"
  | connectionError .. => "connection_error"
  | connectionRestored => "connection_restored"
  | command _ => "command"

end Chronicle
