import Chronicle.Session.Eviction

/-!
Ingestion: what a message from a producer does to a session.
-/

namespace Chronicle.Session

/-- What follows an appended entry. -/
def afterAppend (s : Session) (k : Key) : Session :=
  let s := { s with store := s.fork.markAppended s.store k }
  (s.moveWindow Viewport.onAppend).enforceHistoryCap.2.refreshSearch

/-- What follows an outcome, and whether the screen has changed. -/
def afterOutcome (s : Session) : Outcome → Bool × Session
  | .appended k => (true, s.afterAppend k)
  | .finished k => (true, { s with tokens := s.tokens.release k })
  | .updated _ => (true, s)
  | .confirmed _ => (true, s)
  | .ignored => (false, s)

/-- Takes in a message.  A refused one is counted. -/
def ingest (s : Session) (m : Message) (now : Instant) : Bool × Session :=
  let r := s.correlator.apply s.store m now
  let s := { s with correlator := r.correlator, store := r.store }
  match r.result with
  | .error e => (false, { s with counters := s.counters.refuse e })
  | .ok outcome => s.afterOutcome outcome

end Chronicle.Session
