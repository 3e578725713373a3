import Chronicle.Text.Case
import Chronicle.Timeline.Store

/-!
Search.  A query finds the entries whose text contains it, whatever the case of the letters; a
cursor stands on one of them.
-/

namespace Chronicle

structure Search where
  query : String
  hits : List Key
  cursor : Option Nat
deriving DecidableEq, Repr, Inhabited

namespace Search

def empty : Search := ⟨"", [], none⟩

/-- A query is being looked for. -/
def isActive (q : Search) : Bool := !q.query.isEmpty

/-- An entry contains a query. -/
def finds (query : String) (e : Entry) : Bool :=
  Text.occursIn (Text.toLower query) (Text.toLower e.kind.searchText)

/-- The keys of the entries that contain a query, in order. -/
def hitsIn (s : Store) (query : String) : List Key :=
  (s.entries.filter fun ke => finds query ke.2).map (·.1)

/-- Looks again.  The cursor stays on its entry while that is found. -/
def refresh (q : Search) (s : Store) : Search :=
  if q.isActive then
    let hits := hitsIn s q.query
    { q with hits, cursor := (q.cursor.bind (q.hits[·]?)).bind fun k => hits.findIdx? (· = k) }
  else { q with hits := [], cursor := none }

/-- Looks for a query, which has no blanks around it, with the cursor nowhere. -/
def look (s : Store) (query : String) : Search :=
  Search.refresh { query := Text.trim query, hits := [], cursor := none } s

/-- The hit after the cursor, from the last to the first; the first when there is no cursor. -/
def next? (q : Search) : Option Nat :=
  if q.hits.isEmpty then none
  else some (match q.cursor with
    | some c => (c + 1) % q.hits.length
    | none => 0)

/-- The hit before the cursor, from the first to the last; the last when there is no cursor. -/
def previous? (q : Search) : Option Nat :=
  if q.hits.isEmpty then none
  else some (match q.cursor with
    | some c => (c + q.hits.length - 1) % q.hits.length
    | none => q.hits.length - 1)

end Search

end Chronicle
