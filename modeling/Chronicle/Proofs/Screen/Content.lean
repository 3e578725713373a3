import Chronicle.Screen.Draw
import Mathlib.Data.List.Basic
import Mathlib.Logic.Function.Basic

/-!
# What of a snapshot is drawn

A snapshot holds more than is drawn of it: keys, positions, times in nanoseconds, the counter of output
that came too late.  `Snapshot.content` is the part that is drawn, as a reader of the screen would name
it, and `draw_eq_of_content_eq` says that nothing else is: snapshots with the same content are drawn
alike, on a terminal of any size and in any colors.

So whether a screen is up to date can be asked of two contents, without a word about cells.
-/

namespace Chronicle

/-- What is drawn of an entry: its label, the time behind it if there is one, and how both look. -/
structure EntryContent where
  label : String
  status : Status
  time : Option String
  isHero : Bool
  isPinned : Bool
  isDiscarded : Bool
  isSelected : Bool
  isHit : Bool
deriving DecidableEq, Repr

inductive RowContent where
  | entry (entry : EntryContent)
  | card (isForked : Bool)
deriving DecidableEq, Repr

def RowContent.entry? : RowContent → Option EntryContent
  | entry e => some e
  | card _ => none

structure Content where
  rows : List RowContent
  draft : String
  fork : ForkView
  total : Nat
  isConnected : Bool
  dropped : Nat
  /-- The marker of activity below the window is shown. -/
  marksActivity : Bool
  search : Option SearchView
deriving DecidableEq, Repr

/-- The time drawn behind the label.  Thoughts show none. -/
def EntryRow.time (r : EntryRow) : Option String :=
  if r.entry.kind.isThought then none else r.elapsed.map Screen.elapsedText

def EntryRow.content (r : EntryRow) : EntryContent where
  label := Screen.label r.entry.kind
  status := r.entry.status
  time := r.time
  isHero := r.isHero
  isPinned := r.isPinned
  isDiscarded := r.entry.discarded
  isSelected := r.isSelected
  isHit := r.isHit

def Row.content : Row → RowContent
  | .entry r => .entry r.content
  | .card isForked => .card isForked

def Snapshot.content (v : Snapshot) : Content where
  rows := v.rows.map Row.content
  draft := v.draft
  fork := v.fork
  total := v.viewport.total
  isConnected := v.connection.isConnected
  dropped := v.counters.malformed
  marksActivity := v.viewport.activityBelow && !v.viewport.follow
  search := v.search

/-- The content of the rows of entries, in order. -/
theorem Snapshot.filterMap_content (v : Snapshot) :
    v.content.rows.filterMap RowContent.entry? = v.entryRows.map EntryRow.content := by
  rw [content, entryRows, List.filterMap_map, List.map_filterMap]
  refine List.filterMap_congr fun row _ => ?_
  cases row <;> rfl

namespace Screen

variable {r r' : EntryRow} {v v' : Snapshot}

/-! ## Rows -/

/-- The text of an entry's row, by its content. -/
theorem entryText_eq (r : EntryRow) :
    entryText r = (if r.content.isPinned then "⇣ " else "  ") ++ glyph r.content.status ++ " " ++
      r.content.label ++ r.content.time.elim "" ("  " ++ ·) := by
  unfold entryText EntryRow.content EntryRow.time
  cases r.elapsed with
  | none => simp
  | some d => cases r.entry.kind.isThought <;> simp

theorem entryLook_eq (t : Theme) (r : EntryRow) :
    entryLook t r =
      { fg :=
          if r.content.isDiscarded then t.discardedFg
          else if r.content.isHero then t.heroFg
          else statusColor t r.content.status
        bg := if r.content.isSelected then t.selectedBg else t.timelineBg
        bold := r.content.isHero
        dim := r.content.isDiscarded
        underlined := r.content.isHit } := rfl

/-- What is drawn of a row depends on the content of the row alone. -/
theorem rowPieces_factorsThrough (t : Theme) (draft : String) :
    (rowPieces t draft).FactorsThrough Row.content := by
  rintro (r | isForked) (r' | isForked') same
  · have same : r.content = r'.content := RowContent.entry.inj same
    simp only [rowPieces]
    rw [entryText_eq, entryText_eq, entryLook_eq, entryLook_eq, same]
  · exact absurd same (by simp [Row.content])
  · exact absurd same (by simp [Row.content])
  · rw [RowContent.card.inj same]

/-! ## The screen -/

theorem titleText_congr (same : v.content = v'.content) : titleText v = titleText v' := by
  have total : v.viewport.total = v'.viewport.total := congrArg Content.total same
  have fork : v.fork = v'.fork := congrArg Content.fork same
  rw [titleText, titleText, total, fork]

theorem statusPieces_congr (t : Theme) (same : v.content = v'.content) :
    statusPieces t v = statusPieces t v' := by
  have connected : v.connection.isConnected = v'.connection.isConnected :=
    congrArg Content.isConnected same
  have dropped : v.counters.malformed = v'.counters.malformed := congrArg Content.dropped same
  have marks : (v.viewport.activityBelow && !v.viewport.follow) =
      (v'.viewport.activityBelow && !v'.viewport.follow) := congrArg Content.marksActivity same
  have search : v.search = v'.search := congrArg Content.search same
  simp only [statusPieces, connected, dropped, marks, search]

theorem drawBody_congr (width height : Nat) (t : Theme) (same : v.content = v'.content) :
    drawBody width height t v = drawBody width height t v' := by
  have rows : v.rows.map Row.content = v'.rows.map Row.content := congrArg Content.rows same
  have draft : v.draft = v'.draft := congrArg Content.draft same
  have drawn (v : Snapshot) (draft : String) :
      (v.rows.take height).map (fun row => drawRow width (timelineLook t) (rowPieces t draft row)) =
        ((v.rows.map Row.content).take height).map fun content =>
          drawRow width (timelineLook t)
            (Function.extend Row.content (rowPieces t draft) (fun _ => []) content) := by
    rw [← List.map_take, List.map_map]
    refine List.map_congr_left fun row _ => ?_
    rw [Function.comp_apply, (rowPieces_factorsThrough t draft).extend_apply]
  simp only [drawBody, drawn, rows, draft]

/-- Snapshots with the same content are drawn alike. -/
theorem draw_eq_of_content_eq (width height : Nat) (t : Theme) (same : v.content = v'.content) :
    draw width height t v = draw width height t v' := by
  have status : drawStatus width t v = drawStatus width t v' := by
    rw [drawStatus, drawStatus, statusPieces_congr t same]
  have title : drawTitle width t v = drawTitle width t v' := by
    rw [drawTitle, drawTitle, titleText_congr same]
  match height with
  | 0 => rfl
  | 1 => rw [draw, draw, status]
  | body + 2 => rw [draw, draw, status, title, drawBody_congr width body t same]

end Screen

end Chronicle
