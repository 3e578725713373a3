import Chronicle.Session.Eviction

/-!
Forking in a session: the card moves, the window goes with it, and a return to live lets the
history cap catch up.
-/

namespace Chronicle.Session

/-- What follows a move of the card. -/
def afterFork (s : Session) : Session :=
  match s.fork with
  | .below position => s.moveWindow fun v len => (v.reveal position len).detach
  | .live => (s.moveWindow Viewport.scrollToEnd).enforceHistoryCap.2

/-- Takes over the result of a move of the card, and says whether it moved. -/
def applyFork (s : Session) : Except ForkError Fork × Store → Bool × Session
  | (.error _, store) => (false, { s with store })
  | (.ok fork, store) => (true, { s with fork, store }.afterFork)

/-- The positions in the window. -/
def visible (s : Session) : Span := s.viewport.visible s.size

def moveForkUp (s : Session) : Bool × Session :=
  s.applyFork (s.fork.moveUp s.store s.visible)

def moveForkDown (s : Session) : Bool × Session :=
  s.applyFork (s.fork.moveDown s.store s.visible)

def forkAt (s : Session) (position : Nat) : Bool × Session :=
  s.applyFork (Fork.moveTo s.store position)

/-- Leaves a fork where nothing is to follow it. -/
def resolveFork (s : Session) : Session :=
  if s.fork.isForked then { s with fork := .live, store := Fork.live.partition s.store } else s

/-- Leaves a fork and goes to the end. -/
def cancelFork (s : Session) : Session := if s.fork.isForked then s.resolveFork.afterFork else s

end Chronicle.Session
