/-!
The window onto the timeline.  A viewport is a scroll offset, a number of rows and two more facts:
whether it follows the end of the timeline, and which position is selected.  Every operation that
needs to know how long the timeline is takes its length, so a viewport can be moved over any list.
-/

namespace Chronicle

inductive Direction where
  | up
  | down
deriving DecidableEq, Repr

/-- The positions from `start` up to but not including `stop`. -/
structure Span where
  start : Nat
  stop : Nat
deriving DecidableEq, Repr, Inhabited

namespace Span

def isEmpty (s : Span) : Bool := s.stop ≤ s.start

def contains (s : Span) (position : Nat) : Bool := s.start ≤ position && position < s.stop

/-- The positions of a span in order. -/
def toList (s : Span) : List Nat := (List.range (s.stop - s.start)).map (s.start + ·)

/-- One step of a cursor at `current`, which may reach at most `last`.  A cursor outside the span
lands on the end of the span nearest to it instead; over an empty span it stays. -/
def step (s : Span) (d : Direction) (current last : Nat) : Nat :=
  if s.isEmpty then min current last
  else if current < s.start then min s.start last
  else if s.stop ≤ current then min (s.stop - 1) last
  else match d with
    | .up => current - 1
    | .down => min (current + 1) last

end Span

/-- Where the window stands, how high it is, whether it follows the end, and the selection. -/
structure Viewport where
  offset : Nat
  rows : Nat
  follow : Bool
  selected : Option Nat
deriving DecidableEq, Repr, Inhabited

namespace Viewport

/-- A window at the top that follows the end.  It has one row at least. -/
def ofRows (rows : Nat) : Viewport := ⟨0, max rows 1, true, none⟩

/-- The offset at which the last rows of a timeline of `len` entries fill the window. -/
def maxOffset (v : Viewport) (len : Nat) : Nat := len - v.rows

/-- The positions in the window. -/
def visible (v : Viewport) (len : Nat) : Span := ⟨min v.offset len, min (v.offset + v.rows) len⟩

def isVisible (v : Viewport) (position len : Nat) : Bool := (v.visible len).contains position

/-- Entries exist below the window. -/
def hasMoreBelow (v : Viewport) (len : Nat) : Bool := (v.visible len).stop < len

/-- A window that follows moves to the end; any other stays. -/
def onAppend (v : Viewport) (len : Nat) : Viewport :=
  if v.follow then { v with offset := v.maxOffset len } else v

/-- A window that follows moves to the end; any other goes back as far as it must to be full. -/
def settle (v : Viewport) (len : Nat) : Viewport :=
  if v.follow then { v with offset := v.maxOffset len }
  else { v with offset := min v.offset (v.maxOffset len) }

/-- How many of the positions lie before `position`. -/
def countBefore (positions : List Nat) (position : Nat) : Nat :=
  positions.countP (· < position)

/-- Where the selection is once `removed` are gone and `len` entries are left. -/
def selectedAfter (selected : Option Nat) (removed : List Nat) (len : Nat) : Option Nat :=
  selected.bind fun position =>
    if removed.contains position || len == 0 then none
    else some (position - countBefore removed position)

/-- Keeps the window and the selection on the same entries after those at `removed` have gone and
`len` are left. -/
def onEvicted (v : Viewport) (removed : List Nat) (len : Nat) : Viewport :=
  settle { v with
    offset := v.offset - countBefore removed v.offset
    selected := selectedAfter v.selected removed len } len

/-- Moves towards the start and stops following. -/
def scrollUp (v : Viewport) (n : Nat) : Viewport :=
  { v with offset := v.offset - n, follow := false }

/-- Moves towards the end, and follows it from there. -/
def scrollDown (v : Viewport) (n len : Nat) : Viewport :=
  let offset := min (v.offset + n) (v.maxOffset len)
  { v with offset, follow := v.follow || offset == v.maxOffset len }

def pageUp (v : Viewport) : Viewport := v.scrollUp v.rows

def pageDown (v : Viewport) (len : Nat) : Viewport := v.scrollDown v.rows len

def scrollToTop (v : Viewport) : Viewport := { v with offset := 0, follow := false }

def scrollToEnd (v : Viewport) (len : Nat) : Viewport :=
  { v with offset := v.maxOffset len, follow := true }

/-- Another height, one row at least. -/
def resize (v : Viewport) (rows len : Nat) : Viewport := settle { v with rows := max rows 1 } len

/-- Stops following and stays. -/
def detach (v : Viewport) : Viewport := { v with follow := false }

/-- The least move that brings a position into the window. -/
def reveal (v : Viewport) (position len : Nat) : Viewport :=
  if len ≤ position then v
  else if position < v.offset then { v with offset := position }
  else if v.offset + v.rows ≤ position then { v with offset := position + 1 - v.rows }
  else v

/-- Brings a position to the middle of the window, as far as the ends allow. -/
def centerOn (v : Viewport) (position len : Nat) : Viewport :=
  { v with offset := min (position - v.rows / 2) (v.maxOffset len), follow := false }

/-- Selects a position, or the last one before it that exists, and reveals it. -/
def select (v : Viewport) (position : Option Nat) (len : Nat) : Viewport :=
  match position with
  | some p =>
    if len = 0 then { v with selected := none }
    else
      let p := min p (len - 1)
      { v with selected := some p }.reveal p len
  | none => { v with selected := none }

/-- Selects the entry above the selected one, or the last in the window, and stops following. -/
def navigateUp (v : Viewport) (len : Nat) : Viewport :=
  if len = 0 then v
  else
    let window := v.visible len
    let next := match v.selected with
      | some current => window.step .up current (len - 1)
      | none => window.stop - 1
    ({ v with selected := some next }.reveal next len).detach

/-- Selects the entry below the selected one, or the first in the window; the last entry is
followed. -/
def navigateDown (v : Viewport) (len : Nat) : Viewport :=
  if len = 0 then v
  else
    let window := v.visible len
    let next := match v.selected with
      | some current => window.step .down current (len - 1)
      | none => window.start
    let v := { v with selected := some next }.reveal next len
    if next = len - 1 then v.scrollToEnd len else v

end Viewport

end Chronicle
