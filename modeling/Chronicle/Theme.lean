/-!
Colours of the screen.
-/

namespace Chronicle

inductive Color where
  /-- Whatever the terminal has. -/
  | reset
  | rgb (red green blue : UInt8)
deriving DecidableEq, Repr, Inhabited

/-- A part of a colour in two hexadecimal digits. -/
def hexByte (b : UInt8) : String :=
  String.ofList [Nat.digitChar (b.toNat / 16), Nat.digitChar (b.toNat % 16)]

/-- The name of a colour: its parts in hexadecimal digits. -/
def Color.name : Color → String
  | reset => "reset"
  | rgb r g b => hexByte r ++ hexByte g ++ hexByte b

/-- The colour of every part of the screen. -/
structure Theme where
  timelineBg : Color
  cardBg : Color
  statusBg : Color
  textFg : Color
  mutedFg : Color
  runningFg : Color
  completedFg : Color
  failedFg : Color
  heroFg : Color
  discardedFg : Color
  selectedBg : Color
deriving DecidableEq, Repr, Inhabited

/-- The names of the parts and their colours. -/
def Theme.parts (t : Theme) : List (String × Color) :=
  [("timeline_bg", t.timelineBg), ("card_bg", t.cardBg), ("status_bg", t.statusBg),
    ("text_fg", t.textFg), ("muted_fg", t.mutedFg), ("running_fg", t.runningFg),
    ("completed_fg", t.completedFg), ("failed_fg", t.failedFg), ("hero_fg", t.heroFg),
    ("discarded_fg", t.discardedFg), ("selected_bg", t.selectedBg)]

/-- The colours when nothing else is said. -/
def Theme.standard : Theme where
  timelineBg := .rgb 0x2c 0x2c 0x2c
  cardBg := .rgb 0x3e 0x3e 0x3e
  statusBg := .rgb 0x24 0x24 0x24
  textFg := .rgb 0xe1 0xe1 0xe1
  mutedFg := .rgb 0xb9 0xb9 0xb9
  runningFg := .rgb 0x5a 0x91 0xc8
  completedFg := .rgb 0x78 0xbe 0x78
  failedFg := .rgb 0xdc 0x64 0x64
  heroFg := .rgb 0xff 0xff 0xff
  discardedFg := .rgb 0x6e 0x6e 0x6e
  selectedBg := .rgb 0x46 0x50 0x5f

end Chronicle
