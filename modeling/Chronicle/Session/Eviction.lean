import Chronicle.Session.Searching

/-!
Eviction: entries that leave the timeline, by request or because the history has grown beyond its
cap.  A fork keeps every entry where it is.
-/

namespace Chronicle.Session

/-- Removes one finished entry. -/
def evict (s : Session) (k : Key) : Except EvictionViolation Entry × Session :=
  if s.fork.isForked then (.error .forkPinned, s)
  else if (Hero.candidate? s.store).any (·.1 = k) then (.error (.active k), s)
  else match s.store.evict k with
    | (.error e, store) => (.error e, { s with store })
    | (.ok e, store) =>
      (.ok e, { s with
        store
        tokens := s.tokens.release k
        counters := { s.counters with evicted := s.counters.evicted + 1 } })

/-- The oldest finished entries beyond the cap, with their positions. -/
def victims (s : Session) : List (Nat × Key) :=
  let finished := s.store.entries.zipIdx.filter fun (ke, _) =>
    ke.2.status.isFinished && !ke.2.discarded
  (finished.take (s.size - s.historyCap)).map fun (ke, position) => (position, ke.1)

/-- Evicts one victim, and collects its position. -/
def evictVictim (state : List Nat × Session) (victim : Nat × Key) : List Nat × Session :=
  match state.2.evict victim.2 with
  | (.ok _, s) => (state.1 ++ [victim.1], s)
  | (.error _, s) => (state.1, s)

/-- There are entries beyond the cap, and no fork holds them. -/
def exceedsCap (s : Session) : Bool :=
  s.historyCap ≠ 0 && s.historyCap < s.size && !s.fork.isForked

/-- Evicts the victims, and says how many were. -/
def enforceHistoryCap (s : Session) : Nat × Session :=
  if s.exceedsCap then
    let (removed, s) := s.victims.foldl evictVictim ([], s)
    if removed.isEmpty then (0, s)
    else (removed.length, (s.moveWindow fun v len => v.onEvicted removed len).refreshSearch)
  else (0, s)

end Chronicle.Session
