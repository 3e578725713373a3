/-!
The rows of the terminal: a title on top, a status line at the bottom, the timeline between.
-/

namespace Chronicle.Screen

def titleHeight : Nat := 1

def statusHeight : Nat := 1

/-- Rows of the timeline kept free for the card and the pinned hero. -/
def pinnedRows : Nat := 2

/-- The entries that fit on a terminal of a height, one at least. -/
def timelineRows (height : Nat) : Nat :=
  max (height - (titleHeight + statusHeight + pinnedRows)) 1

/-- The row of the timeline that is drawn on a row of the terminal. -/
def timelineRowAt? (y : Nat) : Option Nat :=
  if titleHeight ≤ y then some (y - titleHeight) else none

end Chronicle.Screen
