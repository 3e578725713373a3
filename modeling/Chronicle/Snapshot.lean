import Chronicle.Session.Forking

/-!
Snapshots: what is drawn of a session at one time.  The rows are the entries in the window, the
card for instructions among them, and the hero pinned to the card where it is not shown at its
place, or a fork is in progress.
-/

namespace Chronicle

/-- An entry as it is drawn. -/
structure EntryRow where
  key : Key
  position : Nat
  entry : Entry
  isHero : Bool
  /-- Set on the copy of the hero that is pinned to the card. -/
  isPinned : Bool
  elapsed : Option Duration
  isSelected : Bool
  isHit : Bool
deriving DecidableEq, Repr, Inhabited

inductive Row where
  | entry (row : EntryRow)
  | card (isForked : Bool)
deriving DecidableEq, Repr, Inhabited

def Row.entry? : Row → Option EntryRow
  | entry row => some row
  | card _ => none

/-- Where the card of a fork is, and how many entries it discards. -/
structure ForkView where
  position : Option Nat
  discarded : Nat
deriving DecidableEq, Repr, Inhabited

structure ViewportView where
  offset : Nat
  rows : Nat
  total : Nat
  follow : Bool
  heroDocked : Bool
  activityBelow : Bool
  selected : Option Nat
deriving DecidableEq, Repr, Inhabited

structure SearchView where
  query : String
  hits : Nat
  cursor : Option Nat
deriving DecidableEq, Repr, Inhabited

structure Snapshot where
  rows : List Row
  hero : HeroPlacement
  fork : ForkView
  viewport : ViewportView
  connection : Connection
  counters : Counters
  draft : String
  search : Option SearchView
deriving DecidableEq, Repr, Inhabited

namespace Session

def forkView (s : Session) : ForkView :=
  match s.fork.position? with
  | some position => ⟨some position, s.size - (position + 1)⟩
  | none => ⟨none, 0⟩

def viewportView (s : Session) : ViewportView where
  offset := s.viewport.offset
  rows := s.viewport.rows
  total := s.size
  follow := s.viewport.follow
  heroDocked := s.hero.isDocked
  activityBelow := s.viewport.hasMoreBelow s.size
  selected := s.viewport.selected

def searchView (s : Session) : Option SearchView :=
  if s.search.isActive then some ⟨s.search.query, s.search.hits.length, s.search.cursor⟩ else none

/-- The row of an entry. -/
def entryRow? (s : Session) (now : Instant) (isPinned : Bool) (k : Key) (position : Nat) :
    Option EntryRow :=
  (s.store.get? k).map fun entry =>
    { key := k, position, entry, isPinned
      isHero := s.hero.key? == some k
      elapsed := entry.elapsed now
      isSelected := s.viewport.selected == some position
      isHit := s.search.hits.contains k }

def card (s : Session) : Row := .card s.fork.isForked

/-- The rows of a position in the window: its entry, and the card below it. -/
def rowsAt (s : Session) (now : Instant) (position : Nat) : List Row :=
  match s.store.keyAt? position with
  | none => []
  | some k =>
    ((s.entryRow? now false k position).map Row.entry).toList ++
      if s.fork.position? = some position then [s.card] else []

/-- The card is above the window. -/
def cardIsAbove (s : Session) : Bool := s.fork.position?.any (· < s.visible.start)

/-- The rows of the window, after the card when that is above it. -/
def windowRows (s : Session) (now : Instant) : List Row :=
  (if s.cardIsAbove then [s.card] else []) ++ s.visible.toList.flatMap (s.rowsAt now)

/-- The card is among the rows of the window. -/
def cardIsPlaced (s : Session) : Bool :=
  s.cardIsAbove ||
    s.fork.position?.any fun position =>
      s.visible.contains position && (s.store.keyAt? position).isSome

/-- The card, unless it is among the rows of the window. -/
def cardBelow (s : Session) : List Row := if s.cardIsPlaced then [] else [s.card]

/-- The pinned copy of the hero. -/
def pinnedRow (s : Session) (now : Instant) (k : Key) (position : Nat) : List Row :=
  ((s.entryRow? now true k position).map Row.entry).toList

/-- All rows, from top to bottom. -/
def rows (s : Session) (now : Instant) : List Row :=
  s.windowRows now ++
    match s.hero with
    | .docked k position => s.pinnedRow now k position ++ s.cardBelow
    | .belowFork k position => s.cardBelow ++ s.pinnedRow now k position
    | .inline _ _ => s.cardBelow
    | .none => s.cardBelow

/-- What is drawn at `now`. -/
def snapshot (s : Session) (now : Instant) : Snapshot where
  rows := s.rows now
  hero := s.hero
  fork := s.forkView
  viewport := s.viewportView
  connection := s.connection
  counters := s.counters
  draft := s.draft
  search := s.searchView

end Session

namespace Snapshot

def entryRows (s : Snapshot) : List EntryRow := s.rows.filterMap Row.entry?

/-- The number of different entries that are shown as the hero. -/
def heroCount (s : Snapshot) : Nat :=
  ((s.entryRows.filter (·.isHero)).map (·.key)).eraseDups.length

/-- The row of the card. -/
def cardIndex? (s : Snapshot) : Option Nat := s.rows.findIdx? fun row => row.entry?.isNone

end Snapshot

end Chronicle
