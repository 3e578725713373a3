import Chronicle.Session.Streaming
import Chronicle.Session.Submission
import Chronicle.Snapshot

/-!
Handling messages: everything a session does starts here.  The answer says whether the screen has to
be drawn again.
-/

namespace Chronicle.Session

/-- A draft that begins with this, blanks apart, is a search. -/
def searchLead : String := "/find "

/-- The query of a draft that is a search. -/
def searchOf? (draft : String) : Option String :=
  (searchLead.toList.isPrefixOf? (Text.dropBlank draft.toList)).map String.ofList

/-- The position of the entry drawn on a row of the timeline. -/
def positionOnRow? (s : Session) (row : Nat) (now : Instant) : Option Nat :=
  ((s.rows now)[row]?.bind Row.entry?).map (·.position)

/-- Forks below the entry drawn on a row, if one is. -/
def forkAtRow (s : Session) (row : Nat) (now : Instant) : Bool × Session :=
  match s.positionOnRow? row now with
  | some position => s.forkAt position
  | none => (false, s)

/-- Takes the draft as a search or as an instruction. -/
def submitDraft (s : Session) (now : Instant) : Bool × Session :=
  let draft := s.draft
  let s := { s with draft := "" }
  match searchOf? draft with
  | some query => (true, s.setQuery query)
  | none =>
    let (id, s) := s.submitInstruction draft now
    (id.isSome, s)

/-- Carries out a command. -/
def applyCommand (s : Session) (c : Command) (now : Instant) : Bool × Session :=
  match c with
  | .moveForkUp => s.moveForkUp
  | .moveForkDown => s.moveForkDown
  | .cancelFork => (true, s.cancelFork)
  | .forkAt position => s.forkAt position
  | .forkAtRow row => s.forkAtRow row now
  | .navigateUp => (true, s.moveWindow Viewport.navigateUp)
  | .navigateDown => (true, s.moveWindow Viewport.navigateDown)
  | .scrollUp n => (true, s.moveWindow fun v _ => v.scrollUp n)
  | .scrollDown n => (true, s.moveWindow fun v len => v.scrollDown n len)
  | .pageUp => (true, s.moveWindow fun v _ => v.pageUp)
  | .pageDown => (true, s.moveWindow Viewport.pageDown)
  | .scrollToTop => (true, s.moveWindow fun v _ => v.scrollToTop)
  | .scrollToEnd => (true, s.moveWindow Viewport.scrollToEnd)
  | .resize rows => (true, s.moveWindow fun v len => v.resize rows len)
  | .stopHero => s.stopHero
  | .draftChar c => (true, { s with draft := s.draft.push c })
  | .draftBackspace => (true, { s with draft := String.ofList s.draft.toList.dropLast })
  | .submitDraft => s.submitDraft now
  | .search query => (true, s.setQuery query)
  | .searchNext => s.searchNext
  | .searchPrevious => s.searchPrevious
  | .quit => (true, { s with quit := true })

/-- The connection is there again. -/
def reconnect (s : Session) : Bool × Session :=
  if s.connection.isConnected then (false, s)
  else
    (true, { s with
      connection := .connected
      counters := { s.counters with reconnects := s.counters.reconnects + 1 } })

/-- Handles one message. -/
def handle (s : Session) (m : Message) (now : Instant) : Bool × Session :=
  match m with
  | .command c => s.applyCommand c now
  | .connectionError reason => (true, { s with connection := .disconnected reason })
  | .connectionRestored => s.reconnect
  | m => s.ingest m now

end Chronicle.Session
