import Chronicle.Config.Fields
import Chronicle.Theme
import Chronicle.Toml.Reader

/-!
Reading a theme.  Every colour may be left out, and keeps its standard value then; a colour that is
given has its three parts.
-/

namespace Chronicle

open Config (Fields natUpTo?)

namespace Color

/-- The parts of a colour, in their places. -/
def partNames : List String := ["r", "g", "b"]

/-- A part of a colour. -/
def part? (v : Toml) : Option UInt8 := (natUpTo? 255 v).map UInt8.ofNat

def ofToml? (v : Toml) : Option Color := do
  let fs ← Fields.of? v
  return .rgb (← fs.required partNames "r" part?) (← fs.required partNames "g" part?)
    (← fs.required partNames "b" part?)

end Color

namespace Theme

/-- The parts of the screen that have a colour, in their places. -/
def partNames : List String := standard.parts.map (·.1)

/-- The theme that fields describe. -/
def ofFields? (fs : Fields) : Option Theme := do
  let color (name : String) (standard : Color) : Option Color :=
    fs.withDefault partNames name Color.ofToml? standard
  return {
    timelineBg := ← color "timeline_bg" standard.timelineBg
    cardBg := ← color "card_bg" standard.cardBg
    statusBg := ← color "status_bg" standard.statusBg
    textFg := ← color "text_fg" standard.textFg
    mutedFg := ← color "muted_fg" standard.mutedFg
    runningFg := ← color "running_fg" standard.runningFg
    completedFg := ← color "completed_fg" standard.completedFg
    failedFg := ← color "failed_fg" standard.failedFg
    heroFg := ← color "hero_fg" standard.heroFg
    discardedFg := ← color "discarded_fg" standard.discardedFg
    selectedBg := ← color "selected_bg" standard.selectedBg }

/-- The theme that the text of a TOML document describes. -/
def read? (s : String) : Option Theme := do
  ofFields? (.named (← Toml.read s))

end Theme

end Chronicle
