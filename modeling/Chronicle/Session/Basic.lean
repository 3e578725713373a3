import Chronicle.Config
import Chronicle.Correlator
import Chronicle.Hero
import Chronicle.Search
import Chronicle.Stream

/-!
The session: the one owner of the timeline and of everything that is shown beside it.
-/

namespace Chronicle

inductive Connection where
  | connected
  | disconnected (reason : String)
deriving DecidableEq, Repr, Inhabited

def Connection.isConnected : Connection → Bool
  | connected => true
  | disconnected _ => false

structure Counters where
  /-- Messages that were refused. -/
  malformed : Nat
  /-- Output that came for an entry that was gone. -/
  stale : Nat
  reconnects : Nat
  evicted : Nat
deriving DecidableEq, Repr, Inhabited

namespace Counters

def zero : Counters := ⟨0, 0, 0, 0⟩

/-- Counts a refused message. -/
def refuse (c : Counters) : IngestionError → Counters
  | .staleHandle _ => { c with stale := c.stale + 1 }
  | _ => { c with malformed := c.malformed + 1 }

end Counters

/-- What the session asks of the other side. -/
inductive Request where
  /-- Carry out an instruction; `forkAfter` is the sequence number of the last entry kept, when the
  instruction discards those after it. -/
  | submitInstruction (id : CorrelationId) (text : String) (forkAfter : Option Nat)
  | stopTool (id : CorrelationId)
deriving DecidableEq, Repr, Inhabited

structure Session where
  store : Store
  correlator : Correlator
  fork : Fork
  viewport : Viewport
  connection : Connection
  counters : Counters
  historyCap : Nat
  /-- The author of instructions. -/
  author : String
  /-- The instruction being written. -/
  draft : String
  outbound : List Request
  tokens : Tokens
  search : Search
  /-- The number of the next instruction. -/
  nextLocal : Nat
  quit : Bool
deriving Repr, Inhabited

namespace Session

/-- A session in which nothing has happened. -/
def start (c : Config) : Session where
  store := .empty c.retiredIds
  correlator := .ofThreshold c.confirmSimilarity
  fork := .live
  viewport := .ofRows c.rows
  connection := .connected
  counters := .zero
  historyCap := c.historyCap
  author := c.author
  draft := ""
  outbound := []
  tokens := .empty
  search := .empty
  nextLocal := 0
  quit := false

/-- The number of live entries. -/
def size (s : Session) : Nat := s.store.size

/-- Where the hero is shown. -/
def hero (s : Session) : HeroPlacement := Hero.placement s.store s.viewport s.fork

/-- The elapsed times on the screen change with the clock. -/
def needsTickRedraw (s : Session) : Bool := (Hero.candidate? s.store).isSome

/-- Moves the window as `f` says, given the number of entries. -/
def moveWindow (s : Session) (f : Viewport → Nat → Viewport) : Session :=
  { s with viewport := f s.viewport s.size }

/-- Takes the requests that wait. -/
def takeOutbound (s : Session) : List Request × Session := (s.outbound, { s with outbound := [] })

end Session

end Chronicle
