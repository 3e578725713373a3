import Chronicle.Screen.Draw
import Mathlib.Data.List.Basic

/-!
# What each line of the screen shows

The lines of a terminal are a title, the rows of the timeline with nothing below them, and a status.  The
screen is drawn line by line from this list (`draw_eq`), so what is drawn at some height is what the line
there shows.  As long as all rows fit, an entry is drawn on the line on which a click looks for it, and on no
other (`entry?_lines`).
-/

namespace Chronicle.Screen

variable {height y : Nat} {v : Snapshot} {r : Row}

/-- What a line of the screen shows. -/
inductive Line where
  | title
  | row (row : Row)
  | blank
  | status
deriving DecidableEq, Repr

/-- The entry that a line shows. -/
def Line.entry? : Line → Option EntryRow
  | row r => r.entry?
  | title => none
  | blank => none
  | status => none

/-- The cells of a line. -/
def Line.cells (width : Nat) (t : Theme) (v : Snapshot) : Line → List Cell
  | title => drawTitle width t v
  | row r => drawRow width (timelineLook t) (rowPieces t v.draft r)
  | blank => drawRow width (timelineLook t) []
  | status => drawStatus width t v

/-- The lines of a terminal from top to bottom. -/
def lines (height : Nat) (v : Snapshot) : List Line :=
  match height with
  | 0 => []
  | 1 => [.status]
  | body + 2 =>
    .title :: ((v.rows.take body).map .row ++
      List.replicate (body - (v.rows.take body).length) .blank) ++ [.status]

theorem draw_eq (width height : Nat) (t : Theme) (v : Snapshot) :
    draw width height t v = (lines height v).map (Line.cells width t v) := by
  match height with
  | 0 => rfl
  | 1 => rfl
  | body + 2 => simp [draw, lines, drawBody, Line.cells, Function.comp_def]

theorem timelineRowAt?_succ (y : Nat) : timelineRowAt? (y + 1) = some y :=
  if_pos (Nat.le_add_left titleHeight y)

/-- Below the rows no entry is shown. -/
theorem entry?_of_mem_below {n : Nat} {l : Line} (mem : l ∈ List.replicate n .blank ++ [.status]) :
    l.entry? = none := by
  rcases List.mem_append.mp mem with blank | status
  · rw [List.eq_of_mem_replicate blank]
    rfl
  · rw [List.mem_singleton.mp status]
    rfl

section Fits

variable (fits : v.rows.length + 2 ≤ height)
include fits

theorem lines_of_fits :
    lines height v = .title :: (v.rows.map .row ++
      (List.replicate (height - 2 - v.rows.length) .blank ++ [.status])) := by
  obtain ⟨body, rfl⟩ : ∃ body, height = body + 2 := ⟨height - 2, by omega⟩
  have all : v.rows.take body = v.rows := List.take_of_length_le (by omega)
  rw [lines, all, List.cons_append, List.append_assoc]
  rfl

/-- Every row is on some line. -/
theorem mem_lines (mem : r ∈ v.rows) : Line.row r ∈ lines height v := by
  rw [lines_of_fits fits]
  exact List.mem_cons_of_mem _ (List.mem_append_left _ (List.mem_map_of_mem mem))

/-- The entry on a line of the screen is the one on the row of the timeline that is drawn there. -/
theorem entry?_lines (y : Nat) :
    (lines height v)[y]?.bind Line.entry? = ((timelineRowAt? y).bind (v.rows[·]?)).bind Row.entry? := by
  rw [lines_of_fits fits]
  cases y with
  | zero => rfl
  | succ y =>
      rw [List.getElem?_cons_succ, timelineRowAt?_succ, Option.bind_some]
      rcases Nat.lt_or_ge y v.rows.length with inside | beyond
      · rw [List.getElem?_append_left (by rwa [List.length_map]), List.getElem?_map,
          List.getElem?_eq_getElem inside]
        rfl
      · rw [List.getElem?_append_right (by rwa [List.length_map]), List.getElem?_eq_none beyond]
        cases there : (_ : List Line)[y - (v.rows.map Line.row).length]? with
        | none => rfl
        | some l => exact entry?_of_mem_below (List.mem_of_getElem? there)

end Fits

end Chronicle.Screen
