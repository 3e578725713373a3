import Chronicle.Timeline.Store
import Chronicle.Viewport

/-!
Forks.  The card for instructions sits below some entry; entries after it are discarded from what
continues.  While it sits below the last entry nothing is discarded and the session is live.
-/

namespace Chronicle

inductive Fork where
  | live
  /-- The card is below the entry at `position`; the entries after it are discarded. -/
  | below (position : Nat)
deriving DecidableEq, Repr, Inhabited

/-- There is nothing to fork. -/
inductive ForkError where
  | emptyTimeline
deriving DecidableEq, Repr

def ForkError.message : ForkError → String
  | emptyTimeline => "cannot fork an empty timeline"

namespace Fork

def position? : Fork → Option Nat
  | live => none
  | below position => some position

def isForked : Fork → Bool
  | live => false
  | below _ => true

/-- The entry at a position is discarded. -/
def discards : Fork → Nat → Bool
  | live, _ => false
  | below i, position => i < position

/-- Flags the entries of a store as the fork says. -/
def partition (f : Fork) (s : Store) : Store := s.discardWhere f.discards

/-- The flags of a store are as the fork says. -/
def partitionHolds (f : Fork) (s : Store) : Bool :=
  s.entries.zipIdx.all fun (ke, position) => ke.2.discarded == f.discards position

/-- The fork with its card below `position`; below the last entry of `len` it is live. -/
def belowOrLive (position len : Nat) : Fork := if len - 1 ≤ position then live else below position

/-- Moves the card one entry up, or to the nearest end of the window. -/
def moveUp (f : Fork) (s : Store) (visible : Span) : Except ForkError Fork × Store :=
  if s.size = 0 then (.error .emptyTimeline, s)
  else
    let last := s.size - 1
    let f' := below (visible.step .up (f.position?.getD last) last)
    (.ok f', f'.partition s)

/-- Moves the card one entry down, or to the nearest end of the window.  A live card stays. -/
def moveDown (f : Fork) (s : Store) (visible : Span) : Except ForkError Fork × Store :=
  if s.size = 0 then (.error .emptyTimeline, s)
  else match f with
    | live => (.ok live, s)
    | below current =>
      let f' := belowOrLive (visible.step .down current (s.size - 1)) s.size
      (.ok f', f'.partition s)

/-- Puts the card below a position. -/
def moveTo (s : Store) (position : Nat) : Except ForkError Fork × Store :=
  if s.size = 0 then (.error .emptyTimeline, s)
  else
    let f' := belowOrLive position s.size
    (.ok f', f'.partition s)

/-- Flags an entry that was appended while forked: it lies below the card. -/
def markAppended (f : Fork) (s : Store) (k : Key) : Store :=
  if f.isForked then s.update k fun e => { e with discarded := true } else s

end Fork

end Chronicle
