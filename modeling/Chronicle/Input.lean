import Chronicle.Message
import Chronicle.Screen.Geometry

/-!
Events of the terminal and the commands they stand for.
-/

namespace Chronicle

inductive KeyCode where
  | up
  | down
  | left
  | right
  | pageUp
  | pageDown
  | home
  | last
  | escape
  | backspace
  | enter
  | tab
  | delete
  | function (n : Nat)
  | char (c : Char)
deriving DecidableEq, Repr, Inhabited

inductive KeyAction where
  | press
  | release
  | repeated
deriving DecidableEq, Repr, Inhabited

/-- A key with the modifiers held down. -/
structure KeyEvent where
  code : KeyCode
  ctrl : Bool
  shift : Bool
  action : KeyAction
deriving DecidableEq, Repr, Inhabited

inductive MouseAction where
  | scrollUp
  | scrollDown
  | leftDown
  | other
deriving DecidableEq, Repr, Inhabited

inductive Event where
  | key (event : KeyEvent)
  | mouse (action : MouseAction) (row : Nat)
  | resize (width height : Nat)
  | other
deriving DecidableEq, Repr, Inhabited

namespace Event

/-- Entries a scroll key moves by. -/
def keyScroll : Nat := 5

/-- Entries a turn of the wheel moves by. -/
def wheelScroll : Nat := 3

/-- What a key does while control is held. -/
def controlCommand? : KeyCode → Option Command
  | .char 'c' => some .quit
  | .char 'u' => some (.scrollUp keyScroll)
  | .char 'd' => some (.scrollDown keyScroll)
  | .char 'k' => some .stopHero
  | .char 'n' => some .searchNext
  | .char 'p' => some .searchPrevious
  | .up => some .moveForkUp
  | .down => some .moveForkDown
  | _ => none

/-- What a key does by itself or while shift is held. -/
def plainCommand? (shift : Bool) : KeyCode → Option Command
  | .up => some (if shift then .moveForkUp else .navigateUp)
  | .down => some (if shift then .moveForkDown else .navigateDown)
  | .pageUp => some .pageUp
  | .pageDown => some .pageDown
  | .home => some .scrollToTop
  | .last => some .scrollToEnd
  | .escape => some .cancelFork
  | .backspace => some .draftBackspace
  | .enter => some .submitDraft
  | .char c => some (.draftChar c)
  | _ => none

def keyCommand? (k : KeyEvent) : Option Command :=
  if k.action ≠ .press then none
  else if k.ctrl then controlCommand? k.code
  else plainCommand? k.shift k.code

def mouseCommand? (action : MouseAction) (row : Nat) : Option Command :=
  match action with
  | .scrollUp => some (.scrollUp wheelScroll)
  | .scrollDown => some (.scrollDown wheelScroll)
  | .leftDown => (Screen.timelineRowAt? row).map .forkAtRow
  | .other => none

/-- The command of an event, if it has one. -/
def command? : Event → Option Command
  | key k => keyCommand? k
  | mouse action row => mouseCommand? action row
  | resize _ height => some (.resize (Screen.timelineRows height))
  | other => none

end Event

end Chronicle
