import Chronicle.Session.Forking
import Chronicle.Session.Ingestion

/-!
Submitting an instruction: it is shown at once, as sent and not yet confirmed, and a request to
carry it out waits for the other side.
-/

namespace Chronicle.Session

/-- The id of the `n`-th instruction. -/
def localId (n : Nat) : CorrelationId := .producer ("local#" ++ toString n)

/-- The first number from `n` on whose id has not been seen; `fuel` bounds the search. -/
def unseenFrom (s : Store) (fuel n : Nat) : Nat :=
  match fuel with
  | 0 => n
  | fuel + 1 => if s.hasSeen (localId n) then unseenFrom s fuel (n + 1) else n

/-- The number of the next instruction.  Among one more numbers than the store has seen ids, one
has not been seen. -/
def nextNumber (s : Session) : Nat := unseenFrom s.store (s.store.ids.length + 1) s.nextLocal

/-- The sequence number of the last entry that a fork keeps. -/
def forkAfter? (s : Session) : Option Nat :=
  s.fork.position?.bind fun position => (s.store.entryAt? position).map (·.sequence)

/-- Submits a text without blanks around it. -/
def submitText (s : Session) (text : String) (now : Instant) : Option CorrelationId × Session :=
  let forkAfter := s.forkAfter?
  let s := s.resolveFork
  let number := s.nextNumber
  let id := localId number
  let s := { s with nextLocal := number + 1 }
  match s.ingest (.inputSubmitted id s.author text) now with
  | (false, s) => (none, s)
  | (true, s) =>
    let s := s.moveWindow Viewport.scrollToEnd
    (some id, { s with outbound := s.outbound ++ [.submitInstruction id text forkAfter] })

/-- Submits an instruction, unless it is blank.  A fork ends with it. -/
def submitInstruction (s : Session) (text : String) (now : Instant) :
    Option CorrelationId × Session :=
  let text := Text.trim text
  if text.isEmpty then (none, s) else s.submitText text now

end Chronicle.Session
