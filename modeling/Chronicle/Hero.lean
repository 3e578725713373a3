import Chronicle.Fork

/-!
The hero: the running entry that was appended last.  It is shown at its place while that is in the
window; out of the window, or while a fork is in progress, a copy of it is pinned to the card.
-/

namespace Chronicle

/-- Where the hero is shown. -/
inductive HeroPlacement where
  | none
  /-- At its place only. -/
  | inline (key : Key) (position : Nat)
  /-- Pinned above the card as well, its place being out of the window. -/
  | docked (key : Key) (position : Nat)
  /-- Pinned below the card of a fork as well. -/
  | belowFork (key : Key) (position : Nat)
deriving DecidableEq, Repr, Inhabited

namespace HeroPlacement

def key? : HeroPlacement → Option Key
  | none => .none
  | inline k _ => some k
  | docked k _ => some k
  | belowFork k _ => some k

def isDocked : HeroPlacement → Bool
  | none => false
  | inline _ _ => false
  | docked _ _ => true
  | belowFork _ _ => true

end HeroPlacement

namespace Hero

/-- The last running entry and its position. -/
def candidate? (s : Store) : Option (Key × Nat) :=
  (s.entries.zipIdx.reverse.find? fun kei => kei.1.2.isRunning).map fun kei => (kei.1.1, kei.2)

def placement (s : Store) (v : Viewport) (f : Fork) : HeroPlacement :=
  match candidate? s with
  | none => .none
  | some (k, position) =>
    if f.isForked then .belowFork k position
    else if v.isVisible position s.size then .inline k position
    else .docked k position

end Hero

end Chronicle
