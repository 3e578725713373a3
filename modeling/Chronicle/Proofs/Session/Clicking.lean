import Chronicle.Input
import Chronicle.Proofs.Screen.Lines
import Chronicle.Proofs.Session.Discarding
import Chronicle.Proofs.Session.Height
import Chronicle.Proofs.Session.Rows

/-!
# Clicking on what is drawn

A click names a line of the screen, and the session looks for the entry on the row that is drawn there.
Between the two there are the lines that a terminal keeps for its title and its status, the rows that a
window leaves free for the card and a pinned hero, and the time, which may be another when the click comes.

`heedsClicks_run` says that none of this is in the way (`HeedsClicks`).  In a terminal of five lines or more
a window that was resized with it leaves room for everything below the title (`IsPartitioned.rows_fit`), so
each row is drawn on the line on which it is looked for (`Screen.entry?_lines`), and which entry that is
does not depend on the time (`positions_rows`).
-/

namespace Chronicle

/-- The position of the entry on a row. -/
def Row.position? (row : Row) : Option Nat := (Row.entry? row).map EntryRow.position

namespace Session

variable {s : Session} {height : Nat}

/-- A click on a line of a terminal bears on what the line shows. -/
structure HeedsClicks (s : Session) (height : Nat) : Prop where
  /-- What is drawn is what the lines show. -/
  drawn : ∀ width theme now, Screen.draw width height theme (s.snapshot now) =
    (Screen.lines height (s.snapshot now)).map (Screen.Line.cells width theme (s.snapshot now))
  /-- Every row is on some line. -/
  all : ∀ now, ∀ row ∈ (s.snapshot now).rows,
    Screen.Line.row row ∈ Screen.lines height (s.snapshot now)
  /-- Below an entry, at its place or pinned, the session is forked; below the last one it is live. -/
  entry : ∀ now y row, (Screen.lines height (s.snapshot now))[y]?.bind Screen.Line.entry? = some row →
    s.store.entries[row.position]? = some (row.key, row.entry) ∧
    ∃ c, (Event.mouse .leftDown y).command? = some c ∧ ∀ later,
      (s.handle (.command c) later).2.fork =
        if row.position + 1 = s.size then .live else .below row.position
  /-- Where no entry is shown, nothing happens. -/
  other : ∀ now y, (Screen.lines height (s.snapshot now))[y]?.bind Screen.Line.entry? = none →
    ∀ c, (Event.mouse .leftDown y).command? = some c →
      ∀ later, s.handle (.command c) later = (false, s)

/-! ## Positions do not depend on the time -/

theorem positions_rowsAt (s : Session) (now later : Instant) (p : Nat) :
    (s.rowsAt now p).map Row.position? =
      (s.rowsAt later p).map Row.position? := by
  rw [rowsAt, rowsAt]
  cases s.store.keyAt? p with
  | none => rfl
  | some k =>
      simp only [entryRow?]
      cases s.store.get? k <;> rfl

theorem positions_pinnedRow (s : Session) (now later : Instant) (k : Key) (p : Nat) :
    (s.pinnedRow now k p).map Row.position? =
      (s.pinnedRow later k p).map Row.position? := by
  rw [pinnedRow, pinnedRow, entryRow?, entryRow?]
  cases s.store.get? k <;> rfl

theorem positions_windowRows (s : Session) (now later : Instant) :
    (s.windowRows now).map Row.position? =
      (s.windowRows later).map Row.position? := by
  rw [windowRows, windowRows, List.map_append, List.map_append, List.map_flatMap, List.map_flatMap]
  congr 1
  exact List.flatMap_congr fun p _ => positions_rowsAt s now later p

/-- At all times the same entries are drawn in the same places. -/
theorem positions_rows (s : Session) (now later : Instant) :
    (s.rows now).map Row.position? =
      (s.rows later).map Row.position? := by
  rw [rows, rows, List.map_append, List.map_append, positions_windowRows s now later]
  congr 1
  cases s.hero with
  | docked k p => rw [List.map_append, List.map_append, positions_pinnedRow s now later]
  | belowFork k p => rw [List.map_append, List.map_append, positions_pinnedRow s now later]
  | inline k p => rfl
  | none => rfl

/-- The entry on a row, whenever it was drawn. -/
theorem positionOnRow?_eq (s : Session) (n : Nat) (now later : Instant) :
    s.positionOnRow? n later =
      ((s.snapshot now).rows[n]?.bind Row.entry?).map EntryRow.position := by
  have same := congrArg (·[n]?) (positions_rows s later now)
  simp only [List.getElem?_map] at same
  rw [positionOnRow?, rows_snapshot]
  cases there : (s.rows later)[n]? <;> cases here : (s.rows now)[n]? <;> simp_all [Row.position?]

/-! ## Room for all rows -/

/-- The position of a row is that of its entry. -/
theorem IsPartitioned.entry_of_row (holds : s.IsPartitioned) {now : Instant} {row : EntryRow}
    (mem : row ∈ (s.snapshot now).entryRows) :
    s.store.entries[row.position]? = some (row.key, row.entry) := by
  rw [(holds.entryRows_snapshot now).1, List.mem_append, List.mem_map, List.mem_map] at mem
  rcases mem with ⟨kep, mem, rfl⟩ | ⟨kep, mem, rfl⟩
  · exact (mem_window.mp mem).1
  · have last := (Option.filter_eq_some_iff.mp (Option.mem_toList.mp mem)).1
    exact (Store.isHero_of_heroAt? holds.sound last).1

/-- A window that leaves room for the title, the status, the card and the hero has room for all rows. -/
theorem IsPartitioned.rows_fit (holds : s.IsPartitioned) (tall : 5 ≤ height)
    (rows : s.viewport.rows = Screen.timelineRows height) (now : Instant) :
    (s.snapshot now).rows.length + 2 ≤ height := by
  have most := (holds.shownBy now).length_le
  have free : Screen.timelineRows height + 4 = height := by
    simp only [Screen.timelineRows, Screen.titleHeight, Screen.statusHeight, Screen.pinnedRows]
    omega
  omega

/-! ## Clicks -/

theorem fork_forkAt {p : Nat} (inside : p < s.size) :
    (s.forkAt p).2.fork = if p + 1 = s.size then .live else .below p := by
  have moved : Fork.moveTo s.store p =
      (.ok (Fork.belowOrLive p s.size), (Fork.belowOrLive p s.size).partition s.store) :=
    if_neg (Nat.ne_of_gt (Nat.zero_lt_of_lt inside))
  rw [Session.forkAt, moved, fork_applyFork, Fork.belowOrLive]
  have last : s.size - 1 ≤ p ↔ p + 1 = s.size := by omega
  simp only [last]

/-- A click on a line, as the session hears of it. -/
theorem command?_leftDown (y : Nat) :
    (Event.mouse .leftDown y).command? = (Screen.timelineRowAt? y).map .forkAtRow := rfl

/-- Where all rows are drawn, clicks are heeded. -/
theorem IsPartitioned.heedsClicks (holds : s.IsPartitioned)
    (fit : ∀ now, (s.snapshot now).rows.length + 2 ≤ height) : s.HeedsClicks height where
  drawn width theme now := Screen.draw_eq width height theme (s.snapshot now)
  all now row mem := Screen.mem_lines (fit now) mem
  entry now y row shown := by
    rw [Screen.entry?_lines (fit now)] at shown
    obtain ⟨at_row, drawn, is_entry⟩ := Option.bind_eq_some_iff.mp shown
    obtain ⟨n, on_row, at_n⟩ := Option.bind_eq_some_iff.mp drawn
    have there := holds.entry_of_row
      (List.mem_filterMap.mpr ⟨at_row, List.mem_of_getElem? at_n, is_entry⟩)
    have inside : row.position < s.size := by
      have := (List.getElem?_eq_some_iff.mp there).1
      rwa [holds.sound.length_entries] at this
    have found (later : Instant) : s.positionOnRow? n later = some row.position := by
      rw [positionOnRow?_eq s n now later, at_n, Option.bind_some, is_entry, Option.map_some]
    refine ⟨there, .forkAtRow n, by rw [command?_leftDown, on_row, Option.map_some], fun later => ?_⟩
    show (s.forkAtRow n later).2.fork = _
    rw [forkAtRow, found later]
    exact fork_forkAt inside
  other now y shown c mapped later := by
    rw [command?_leftDown] at mapped
    obtain ⟨n, on_row, rfl⟩ := Option.map_eq_some_iff.mp mapped
    rw [Screen.entry?_lines (fit now), on_row, Option.bind_some] at shown
    show s.forkAtRow n later = (false, s)
    rw [forkAtRow, positionOnRow?_eq s n now later, shown]
    rfl

/-- A resized window has as many rows as fit on the terminal. -/
theorem rows_perform_resize (s : Session) (height : Nat) (now : Instant) :
    (s.perform (.handle (.command (.resize (Screen.timelineRows height))) now)).viewport.rows =
      Screen.timelineRows height :=
  (Viewport.rows_settle _ _).trans (Nat.max_eq_left (Nat.le_max_right _ _))

/-- In every terminal of five lines or more, clicks are heeded in every state that is reached after the
window has been resized with the terminal. -/
theorem heedsClicks_run (c : Config) (before after : List Action) {width height : Nat}
    {resize : Command} (sized : Instant) (tall : 5 ≤ height)
    (mapped : (Event.resize width height).command? = some resize)
    (last : ∀ a ∈ after, a.resizes = false) :
    ((start c).run (before ++ .handle (.command resize) sized :: after)).HeedsClicks height := by
  obtain rfl : .resize (Screen.timelineRows height) = resize := Option.some.inj mapped
  have holds := (isPartitioned_start c).run
    (before ++ .handle (.command (.resize (Screen.timelineRows height))) sized :: after)
  refine holds.heedsClicks (holds.rows_fit tall ?_)
  rw [run_append]
  exact (rows_run _ last).trans (rows_perform_resize _ height sized)

/-- A tool that has gone out of a window of one row, two files below it, and a card that is moved up. -/
def cardAbovePinnedTool : List Action :=
  [.handle (.toolStarted (.producer "a") "" "") 0, .handle (.fileRead (.producer "b") "" []) 0,
    .handle (.fileRead (.producer "c") "" []) 0, .moveForkUp]

/-- The title, the first file, the card, the tool and the status. -/
theorem heedsClicks_run_pinnedTool :
    (5 ≤ 5 ∧ (Event.resize 80 5).command? = some (.resize 1) ∧
      ∀ a ∈ cardAbovePinnedTool, a.resizes = false) ∧
    ((start .standard).run ([] ++ .handle (.command (.resize 1)) 0 :: cardAbovePinnedTool)).HeedsClicks 5 ∧
    (Screen.lines 5 (((start .standard).run
        ([] ++ .handle (.command (.resize 1)) 0 :: cardAbovePinnedTool)).snapshot 0)).map
      (fun line => (Screen.Line.entry? line).map EntryRow.position) = [none, some 1, none, some 0, none] := by
  have others : ∀ a ∈ cardAbovePinnedTool, a.resizes = false := by
    simp [cardAbovePinnedTool, Action.resizes]
  have mapped : (Event.resize 80 5).command? = some (.resize 1) := rfl
  exact ⟨⟨by decide, mapped, others⟩,
    heedsClicks_run .standard [] cardAbovePinnedTool 0 (by decide) mapped others, by decide +kernel⟩

end Session

end Chronicle
