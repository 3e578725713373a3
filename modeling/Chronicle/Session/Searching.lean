import Chronicle.Session.Basic

/-!
Searching in a session: the query, and the selection going from hit to hit.
-/

namespace Chronicle.Session

/-- Looks for the query again after the entries have changed. -/
def refreshSearch (s : Session) : Session := { s with search := s.search.refresh s.store }

/-- Puts the cursor on a hit, selects its entry and brings it to the middle of the window. -/
def jumpTo (s : Session) (index : Nat) : Session :=
  match s.search.hits[index]?.bind s.store.positionOf? with
  | none => s
  | some position =>
    let s := { s with search := { s.search with cursor := some index } }
    s.moveWindow fun v len => (v.select (some position) len).centerOn position len

/-- Looks for a query and goes to its last hit. -/
def setQuery (s : Session) (query : String) : Session :=
  let s := { s with search := .look s.store query }
  match s.search.hits.length with
  | 0 => s
  | last + 1 => s.jumpTo last

/-- Goes to a hit if there is one. -/
def jumpToOption (s : Session) : Option Nat → Bool × Session
  | none => (false, s)
  | some index => (true, s.jumpTo index)

def searchNext (s : Session) : Bool × Session := s.jumpToOption s.search.next?

def searchPrevious (s : Session) : Bool × Session := s.jumpToOption s.search.previous?

end Chronicle.Session
