import Chronicle.Screen.Geometry
import Chronicle.Screen.Grid
import Chronicle.Screen.Label
import Chronicle.Snapshot

/-!
Drawing a snapshot: the title on the first row, the status on the last, the timeline between.
-/

namespace Chronicle.Screen

/-! ## Texts -/

def titleText (s : Snapshot) : String :=
  "Activity (" ++ toString s.viewport.total ++ " entries)" ++
    match s.fork.position with
    | some position =>
      " | forking after #" ++ toString position ++ ", " ++ toString s.fork.discarded ++ " discarded"
    | none => ""

def helpText : String :=
  "Shift+Up/Down fork | Esc cancel | Up/Down select | Ctrl+K stop | /find <text>"

def glyph : Status → String
  | .pending => "…"
  | .running => "●"
  | .completed => "✓"
  | .failed => "✗"

/-- The text of an entry's row.  Thoughts show no time. -/
def entryText (r : EntryRow) : String :=
  (if r.isPinned then "⇣ " else "  ") ++ glyph r.entry.status ++ " " ++ label r.entry.kind ++
    match r.elapsed with
    | some d => if r.entry.kind.isThought then "" else "  " ++ elapsedText d
    | none => ""

def cardText (isForked : Bool) (draft : String) : String :=
  (if isForked then "⑂ new instructions here" else "›") ++ " " ++ draft ++ "▏"

/-- A text on one line: its lines without what ends them. -/
def joinLines (s : String) (look : Look) : List Piece := (Text.lines s).map (⟨·, look⟩)

/-! ## Looks -/

def statusLook (t : Theme) : Look := .plain t.mutedFg t.statusBg

def timelineLook (t : Theme) : Look := .plain t.textFg t.timelineBg

def statusColor (t : Theme) : Status → Color
  | .pending => t.mutedFg
  | .running => t.runningFg
  | .completed => t.textFg
  | .failed => t.failedFg

/-- The look of an entry's text.  Being discarded outweighs being the hero. -/
def entryLook (t : Theme) (r : EntryRow) : Look where
  fg :=
    if r.entry.discarded then t.discardedFg
    else if r.isHero then t.heroFg
    else statusColor t r.entry.status
  bg := if r.isSelected then t.selectedBg else t.timelineBg
  bold := r.isHero
  dim := r.entry.discarded
  underlined := r.isHit

def cardLook (t : Theme) : Look := .plain t.textFg t.cardBg

/-! ## Rows -/

/-- The pieces of the status line. -/
def statusPieces (t : Theme) (s : Snapshot) : List Piece :=
  let base := statusLook t
  (if s.connection.isConnected then [⟨"● connected", { base with fg := t.completedFg }⟩]
    else [⟨"○ disconnected", { base with fg := t.failedFg }⟩]) ++
  (if 0 < s.counters.malformed then
    [⟨" | " ++ toString s.counters.malformed ++ " dropped", base⟩] else []) ++
  (if s.viewport.activityBelow && !s.viewport.follow then
    [⟨" | ↓ new activity below", { base with fg := t.runningFg }⟩] else []) ++
  (match s.search with
    | some q =>
      [⟨" | find '" ++ q.query ++ "' " ++ toString (q.cursor.elim 0 (· + 1)) ++ "/" ++
        toString q.hits, base⟩]
    | none => []) ++
  [⟨" | " ++ helpText, base⟩]

def rowPieces (t : Theme) (draft : String) : Row → List Piece
  | .entry r => joinLines (entryText r) (entryLook t r)
  | .card isForked => joinLines (cardText isForked draft) (cardLook t)

/-- The title row. -/
def drawTitle (width : Nat) (t : Theme) (s : Snapshot) : List Cell :=
  drawRow width (statusLook t) (joinLines (titleText s) (statusLook t))

def drawStatus (width : Nat) (t : Theme) (s : Snapshot) : List Cell :=
  drawRow width (statusLook t) (statusPieces t s)

/-- The rows of the timeline on `height` rows; what is too much is left out. -/
def drawBody (width height : Nat) (t : Theme) (s : Snapshot) : List (List Cell) :=
  let drawn := (s.rows.take height).map fun row =>
    drawRow width (timelineLook t) (rowPieces t s.draft row)
  drawn ++ List.replicate (height - drawn.length) (drawRow width (timelineLook t) [])

/-- All rows of a terminal. -/
def draw (width height : Nat) (t : Theme) (s : Snapshot) : List (List Cell) :=
  match height with
  | 0 => []
  | 1 => [drawStatus width t s]
  | body + 2 => drawTitle width t s :: drawBody width body t s ++ [drawStatus width t s]

end Chronicle.Screen
