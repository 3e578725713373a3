import Chronicle.Proofs.Hero
import Chronicle.Proofs.Session.Partition
import Chronicle.Snapshot
import Mathlib.Data.List.Sort

/-!
# The rows of a snapshot

What is drawn is laid out from the session, not from the code that draws it: `Session.window` is the
stretch of the entries that the viewport is on, `Store.IsHero` says which entry is the hero, and
`ShownBy` puts the entries of the window, the card and the pinned hero in their places.
`shownBy_run` says that every state of every run is shown so, at every time.

The card is put down in one of four places by the code, depending on where the fork is.  Seen from the
window it is always in one: below the entries that are kept, above those that are discarded
(`windowRows_append_cardBelow`).
-/

namespace Chronicle

/-- What the row is a row of: an entry with its key, and its position. -/
def EntryRow.shown (row : EntryRow) : (Key × Entry) × Nat := ((row.key, row.entry), row.position)

namespace Row

@[simp]
theorem entry?_entry (row : EntryRow) : Row.entry? (.entry row) = some row := rfl

@[simp]
theorem entry?_card (isForked : Bool) : Row.entry? (.card isForked) = none := rfl

end Row

namespace Snapshot

/-- The rows of entries at their places. -/
def placed (v : Snapshot) : List EntryRow := v.entryRows.filter (!·.isPinned)

/-- The rows that are pinned to the card. -/
def pinned (v : Snapshot) : List EntryRow := v.entryRows.filter (·.isPinned)

def cards (v : Snapshot) : List Row := v.rows.filter fun row => row.entry?.isNone

end Snapshot

namespace Session

variable {s : Session} {now : Instant}

/-- The entries at the positions that the viewport is on. -/
def window (s : Session) : List ((Key × Entry) × Nat) :=
  s.store.entries.zipIdx.filter fun kep =>
    s.viewport.offset ≤ kep.2 && kep.2 < s.viewport.offset + s.viewport.rows

/-- How a session is to be shown. -/
structure ShownBy (s : Session) (v : Snapshot) : Prop where
  /-- Every entry of the window has one row at its place, in order. -/
  placed : v.placed.map EntryRow.shown = s.window
  card : v.cards = [.card s.fork.isForked]
  pinned_le : v.pinned.length ≤ 1
  /-- Something is pinned when an entry runs, and a fork is in progress or the hero is not in the
  window. -/
  pinned_iff : v.pinned ≠ [] ↔ (∃ ke ∈ s.store.entries, ke.2.isRunning = true) ∧
    (s.fork.isForked = true ∨ ∀ kep ∈ s.window, ¬ s.store.IsHero kep.1.1 kep.1.2)
  /-- What is pinned is the hero. -/
  pinned_hero : ∀ row ∈ v.pinned,
    row.shown ∈ s.store.entries.zipIdx ∧ s.store.IsHero row.key row.entry
  hero : ∀ row ∈ v.entryRows, row.isHero = true ↔ s.store.IsHero row.key row.entry
  live : s.fork = .live →
    v.rows = v.placed.map .entry ++ v.pinned.map .entry ++ [.card false]
  /-- The card of a fork parts the entries that are discarded from those that are not. -/
  forked : ∀ i, s.fork = .below i →
    v.rows = (v.placed.filter (!·.entry.discarded)).map .entry ++ [.card true] ++
      (v.placed.filter (·.entry.discarded)).map .entry ++ v.pinned.map .entry ∧
    ∀ row ∈ v.placed, row.entry.discarded = true ↔ i < row.position
  length_le : v.rows.length ≤ s.viewport.rows + 2

/-! ## The window -/

theorem mem_window {kep : (Key × Entry) × Nat} :
    kep ∈ s.window ↔ s.store.entries[kep.2]? = some kep.1 ∧
      s.viewport.offset ≤ kep.2 ∧ kep.2 < s.viewport.offset + s.viewport.rows := by
  simp [window, List.mem_zipIdx_iff_getElem?]

theorem zipIdx_sorted {α : Type} (l : List α) : l.zipIdx.Pairwise fun a b => a.2 < b.2 := by
  have positions : (l.zipIdx.map Prod.snd).Pairwise (· < ·) := by
    rw [List.zipIdx_map_snd]
    exact List.pairwise_lt_range'
  exact List.pairwise_map.mp positions

theorem window_sorted (s : Session) : s.window.Pairwise fun a b => a.2 < b.2 :=
  (zipIdx_sorted _).filter _

theorem mem_window_iff (sound : s.store.Sound) {kep : (Key × Entry) × Nat} :
    kep ∈ s.window ↔ s.store.entries[kep.2]? = some kep.1 ∧ s.visible.contains kep.2 = true := by
  rw [mem_window, Span.contains_iff]
  refine and_congr_right fun at_p => ?_
  obtain ⟨inside, -⟩ := List.getElem?_eq_some_iff.mp at_p
  rw [sound.length_entries] at inside
  simp only [visible, Viewport.visible, size]
  omega

/-- The positions that are gone through are those of the window. -/
theorem window_eq (sound : s.store.Sound) :
    s.window = s.visible.toList.filterMap fun p => s.store.entries[p]?.map (·, p) := by
  have : Std.Asymm fun a b : (Key × Entry) × Nat => a.2 < b.2 := ⟨fun _ _ => Nat.lt_asymm⟩
  refine s.window_sorted.eq_of_mem_iff (s.visible.toList_sorted.filterMap _ ?_) fun ⟨ke, p⟩ => ?_
  · intro p q lt kep at_p kep' at_q
    obtain ⟨ke, -, rfl⟩ := Option.map_eq_some_iff.mp at_p
    obtain ⟨ke', -, rfl⟩ := Option.map_eq_some_iff.mp at_q
    exact lt
  · simp only [mem_window_iff sound, List.mem_filterMap, Option.map_eq_some_iff, Span.mem_toList,
      Prod.mk.injEq]
    constructor
    · rintro ⟨at_p, seen⟩
      exact ⟨p, seen, ke, at_p, rfl, rfl⟩
    · rintro ⟨q, seen, ke', at_q, rfl, rfl⟩
      exact ⟨at_q, seen⟩

theorem length_window_le (sound : s.store.Sound) : s.window.length ≤ s.viewport.rows := by
  rw [window_eq sound]
  refine Nat.le_trans (List.length_filterMap_le _ _) ?_
  rw [Span.toList, List.length_map, List.length_range]
  simp only [visible, Viewport.visible]
  omega

/-! ## The hero -/

/-- The hero, when it is not enough to show it at its place. -/
def strayHero? (s : Session) : Option ((Key × Entry) × Nat) :=
  s.store.heroAt?.filter fun kep => s.fork.isForked || !s.viewport.isVisible kep.2 s.size

theorem hero_key? (s : Session) : s.hero.key? = s.store.heroAt?.map (·.1.1) :=
  Hero.key?_placement _ _ _

theorem hero_eq_some_iff (sound : s.store.Sound) {k : Key} {e : Entry}
    (found : s.store.get? k = some e) : s.hero.key? = some k ↔ s.store.IsHero k e := by
  rw [hero_key?, Option.map_eq_some_iff]
  constructor
  · rintro ⟨⟨⟨k', e'⟩, p⟩, last, rfl⟩
    obtain ⟨at_p, hero⟩ := (Store.heroAt?_eq_some sound).mp last
    obtain rfl := Option.some.inj (found.symm.trans (sound.mem_entries.mp hero.mem))
    exact hero
  · intro hero
    obtain ⟨p, at_p⟩ := List.getElem?_of_mem hero.mem
    exact ⟨((k, e), p), (Store.heroAt?_eq_some sound).mpr ⟨at_p, hero⟩, rfl⟩

/-! ## Rows of entries -/

/-- The row of an entry at a position. -/
def rowOf (s : Session) (now : Instant) (isPinned : Bool) (kep : (Key × Entry) × Nat) : EntryRow where
  key := kep.1.1
  position := kep.2
  entry := kep.1.2
  isHero := s.hero.key? == some kep.1.1
  isPinned := isPinned
  elapsed := kep.1.2.elapsed now
  isSelected := s.viewport.selected == some kep.2
  isHit := s.search.hits.contains kep.1.1

theorem entryRow?_eq {k : Key} {e : Entry} (found : s.store.get? k = some e) (now : Instant)
    (isPinned : Bool) (p : Nat) :
    s.entryRow? now isPinned k p = some (s.rowOf now isPinned ((k, e), p)) := by
  rw [entryRow?, found]
  rfl

/-- The row of an entry of the window, with the card when that is below it. -/
def rowsOf (s : Session) (now : Instant) (kep : (Key × Entry) × Nat) : List Row :=
  .entry (s.rowOf now false kep) :: if s.fork.position? = some kep.2 then [s.card] else []

theorem rowsAt_eq (sound : s.store.Sound) (now : Instant) (p : Nat) :
    s.rowsAt now p = (s.store.entries[p]?.map (·, p)).toList.flatMap (s.rowsOf now) := by
  rw [rowsAt, Store.keyAt?]
  cases at_p : s.store.order[p]? with
  | none =>
      have none_there : s.store.entries[p]? = none := by
        rw [List.getElem?_eq_none_iff] at at_p ⊢
        rwa [sound.length_entries]
      simp [none_there]
  | some k =>
      obtain ⟨e, found⟩ := (sound.live k).mpr (List.mem_of_getElem? at_p)
      rw [sound.getElem?_entries.mpr ⟨at_p, found⟩]
      simp [entryRow?_eq found, rowsOf]

theorem windowRows_eq (sound : s.store.Sound) (now : Instant) :
    s.windowRows now =
      (if s.cardIsAbove then [s.card] else []) ++ s.window.flatMap (s.rowsOf now) := by
  rw [windowRows, window_eq sound, List.filterMap_eq_flatMap_toList, List.flatMap_assoc]
  congr 1
  exact List.flatMap_congr fun p _ => rowsAt_eq sound now p

/-- The pinned copy of an entry. -/
theorem pinnedRow_eq {k : Key} {e : Entry} (found : s.store.get? k = some e) (now : Instant)
    (p : Nat) : s.pinnedRow now k p = [.entry (s.rowOf now true ((k, e), p))] := by
  rw [pinnedRow, entryRow?_eq found]
  rfl

/-! ## Where things are -/

/-- A live session: the window, the pinned hero, the card. -/
theorem rows_of_live (sound : s.store.Sound) (now : Instant) (live : s.fork = .live) :
    s.rows now = (s.window.map (s.rowOf now false)).map .entry ++
      (s.strayHero?.toList.map (s.rowOf now true)).map .entry ++ [.card false] := by
  have above : s.windowRows now = (s.window.map (s.rowOf now false)).map .entry := by
    have no_card : s.cardIsAbove = false := by rw [cardIsAbove, live]; rfl
    rw [windowRows_eq sound, no_card, List.map_map, List.map_eq_flatMap]
    refine List.flatMap_congr fun kep _ => ?_
    rw [rowsOf, live]
    rfl
  have below : s.cardBelow = [.card false] := by
    rw [cardBelow, cardIsPlaced, cardIsAbove, card, live]
    rfl
  rw [rows, above, below, hero, Hero.placement, strayHero?, Store.candidate?_eq, live]
  cases last : s.store.heroAt? with
  | none => simp
  | some kep =>
      obtain ⟨⟨k, e⟩, p⟩ := kep
      have found := sound.mem_entries.mp (Store.isHero_of_heroAt? sound last).2.mem
      cases seen : s.viewport.isVisible p s.store.size with
      | true => simp [Fork.isForked, size, seen]
      | false => simp [Fork.isForked, size, seen, pinnedRow_eq found, Option.filter]

/-- Rows in order of their positions, parted after the position `i`. -/
theorem filter_le_append_filter_lt {α : Type} (i : Nat) {l : List (α × Nat)}
    (sorted : l.Pairwise fun a b => a.2 < b.2) : l.filter (·.2 ≤ i) ++ l.filter (i < ·.2) = l := by
  induction l with
  | nil => rfl
  | cons x l ih =>
      obtain ⟨first, sorted⟩ := List.pairwise_cons.mp sorted
      by_cases le : x.2 ≤ i
      · rw [List.filter_cons_of_pos (by simpa using le), List.filter_cons_of_neg (by simpa using le),
          List.cons_append, ih sorted]
      · have all_lt : ∀ y ∈ x :: l, i < y.2 := by
          intro y mem
          rcases List.mem_cons.mp mem with rfl | mem
          · omega
          · have := first y mem
            omega
        rw [List.filter_eq_nil_iff.mpr fun y mem => by simpa using all_lt y mem, List.nil_append]
        exact List.filter_eq_self.mpr fun y mem => decide_eq_true (all_lt y mem)

/-- Rows with a card put in after the position `i`, if there is a row of that position. -/
theorem flatMap_insert {α β : Type} (f : α × Nat → β) (card : β) (i : Nat) {l : List (α × Nat)}
    (sorted : l.Pairwise fun a b => a.2 < b.2) :
    l.flatMap (fun x => f x :: if i = x.2 then [card] else []) =
      (l.filter (·.2 ≤ i)).map f ++ (if l.any (·.2 = i) then [card] else []) ++
        (l.filter (i < ·.2)).map f := by
  induction l with
  | nil => rfl
  | cons x l ih =>
      obtain ⟨first, sorted⟩ := List.pairwise_cons.mp sorted
      rw [List.flatMap_cons, ih sorted]
      by_cases before : x.2 < i
      · have le : x.2 ≤ i := Nat.le_of_lt before
        have other : decide (x.2 = i) = false := decide_eq_false (Nat.ne_of_lt before)
        rw [List.any_cons, other, Bool.false_or]
        simp [le, Nat.not_lt.mpr le, Nat.ne_of_gt before]
      · have none_le : l.filter (·.2 ≤ i) = [] :=
          List.filter_eq_nil_iff.mpr fun y mem => by have := first y mem; simp; omega
        have none_at : l.any (·.2 = i) = false :=
          List.any_eq_false.mpr fun y mem => by have := first y mem; simp; omega
        rw [none_le, none_at]
        by_cases same : x.2 = i
        · simp [same, none_le, none_at]
        · have lt : i < x.2 := by omega
          simp [lt, Nat.not_le.mpr lt, same, Ne.symm same, none_le, none_at]

/-- The entry of a position stands in the window exactly if the position is in it. -/
theorem any_window (sound : s.store.Sound) {i : Nat} (inside : i < s.size) :
    s.window.any (·.2 = i) = s.visible.contains i := by
  rw [Bool.eq_iff_iff, List.any_eq_true]
  constructor
  · rintro ⟨kep, mem, at_i⟩
    rw [← of_decide_eq_true at_i]
    exact ((mem_window_iff sound).mp mem).2
  · intro contains
    obtain ⟨ke, at_i⟩ : ∃ ke, s.store.entries[i]? = some ke :=
      ⟨_, List.getElem?_eq_getElem (by rwa [sound.length_entries])⟩
    exact ⟨(ke, i), (mem_window_iff sound).mpr ⟨at_i, contains⟩, decide_eq_true rfl⟩

/-- The card is put down above the window or in it. -/
theorem windowRows_of_below (sound : s.store.Sound) (now : Instant) {i : Nat}
    (below : s.fork = .below i) (inside : i < s.size) :
    s.windowRows now = (if i < s.visible.start then [.card true] else []) ++
      ((s.window.filter (·.2 ≤ i)).map (s.rowOf now false)).map .entry ++
      (if s.visible.contains i then [.card true] else []) ++
      ((s.window.filter (i < ·.2)).map (s.rowOf now false)).map .entry := by
  have above : s.cardIsAbove = decide (i < s.visible.start) := by
    rw [cardIsAbove, below]
    rfl
  have each : ∀ kep ∈ s.window, s.rowsOf now kep =
      .entry (s.rowOf now false kep) :: if i = kep.2 then [.card true] else [] := by
    intro kep _
    simp [rowsOf, card, below, Fork.position?, Fork.isForked]
  rw [windowRows_eq sound, List.flatMap_congr each, flatMap_insert _ _ i s.window_sorted,
    any_window sound inside, above]
  simp [card, below, Fork.isForked, Function.comp_def]

/-- Else it is put down below the window. -/
theorem cardBelow_of_below {i : Nat} (below : s.fork = .below i) (inside : i < s.size) :
    s.cardBelow = if i < s.visible.start ∨ s.visible.contains i = true then [] else [.card true] := by
  have some_there : (s.store.keyAt? i).isSome = true := by
    rw [Store.keyAt?, List.getElem?_eq_getElem inside]
    rfl
  have placed : s.cardIsPlaced = (decide (i < s.visible.start) || s.visible.contains i) := by
    rw [cardIsPlaced, cardIsAbove, below]
    simp [Fork.position?, some_there]
  rw [cardBelow, placed, card, below]
  simp [Fork.isForked]

/-- The card of a fork is put down once, and wherever that is, it is between the entries up to the fork
and those after it. -/
theorem windowRows_append_cardBelow (sound : s.store.Sound) (now : Instant) {i : Nat}
    (below : s.fork = .below i) (inside : i < s.size) :
    s.windowRows now ++ s.cardBelow =
      ((s.window.filter (·.2 ≤ i)).map (s.rowOf now false)).map .entry ++ [.card true] ++
        ((s.window.filter (i < ·.2)).map (s.rowOf now false)).map .entry := by
  have seen : ∀ kep ∈ s.window, s.visible.start ≤ kep.2 ∧ kep.2 < s.visible.stop :=
    fun kep mem => Span.contains_iff.mp ((mem_window_iff sound).mp mem).2
  rw [windowRows_of_below sound now below inside, cardBelow_of_below below inside]
  -- out of the window, there are no entries between the card and where it belongs
  by_cases above : i < s.visible.start
  · have none_le : s.window.filter (·.2 ≤ i) = [] :=
      List.filter_eq_nil_iff.mpr fun kep mem => by have := seen kep mem; simp; omega
    have outside : s.visible.contains i = false := by
      rw [Bool.eq_false_iff, Ne, Span.contains_iff]
      omega
    simp [above, outside, none_le]
  · by_cases contains : s.visible.contains i = true
    · simp [above, contains]
    · have none_lt : s.window.filter (i < ·.2) = [] := by
        rw [Span.contains_iff] at contains
        exact List.filter_eq_nil_iff.mpr fun kep mem => by have := seen kep mem; simp; omega
      simp [above, contains, none_lt]

/-- A session that is forked: what is kept, the card, what is discarded, the pinned hero. -/
theorem rows_of_below (sound : s.store.Sound) (now : Instant) {i : Nat} (below : s.fork = .below i)
    (inside : i < s.size) :
    s.rows now = ((s.window.filter (·.2 ≤ i)).map (s.rowOf now false)).map .entry ++ [.card true] ++
      ((s.window.filter (i < ·.2)).map (s.rowOf now false)).map .entry ++
      (s.strayHero?.toList.map (s.rowOf now true)).map .entry := by
  rw [← windowRows_append_cardBelow sound now below inside, rows, hero, Hero.placement, strayHero?,
    Store.candidate?_eq, below]
  cases last : s.store.heroAt? with
  | none => simp
  | some kep =>
      obtain ⟨⟨k, e⟩, p⟩ := kep
      have found := sound.mem_entries.mp (Store.isHero_of_heroAt? sound last).2.mem
      simp [Fork.isForked, pinnedRow_eq found, Option.filter]

/-! ## The pinned hero -/

/-- There is only one hero, so there is none in the window unless its position is. -/
theorem isVisible_eq_false_iff (sound : s.store.Sound) {ke : Key × Entry} {p : Nat}
    (last : s.store.heroAt? = some (ke, p)) :
    s.viewport.isVisible p s.size = false ↔
      ∀ kep ∈ s.window, ¬ s.store.IsHero kep.1.1 kep.1.2 := by
  obtain ⟨at_p, hero⟩ := Store.isHero_of_heroAt? sound last
  rw [Bool.eq_false_iff]
  constructor
  · rintro unseen ⟨ke', q⟩ mem hero'
    obtain ⟨at_q, seen⟩ := (mem_window_iff sound).mp mem
    have last' := (Store.heroAt?_eq_some sound).mpr ⟨at_q, hero'⟩
    obtain ⟨-, rfl⟩ := Prod.mk.inj (Option.some.inj (last.symm.trans last'))
    exact unseen seen
  · intro no_hero seen
    exact no_hero (ke, p) ((mem_window_iff sound).mpr ⟨at_p, seen⟩) hero

/-- The hero is pinned exactly while it runs out of the window, or besides a fork. -/
theorem strayHero?_isSome_iff (sound : s.store.Sound) :
    s.strayHero?.isSome = true ↔ (∃ ke ∈ s.store.entries, ke.2.isRunning = true) ∧
      (s.fork.isForked = true ∨ ∀ kep ∈ s.window, ¬ s.store.IsHero kep.1.1 kep.1.2) := by
  cases last : s.store.heroAt? with
  | none =>
      have none_runs := Store.heroAt?_eq_none.mp last
      rw [strayHero?, last]
      refine iff_of_false (by simp) ?_
      rintro ⟨⟨ke, mem, running⟩, -⟩
      exact absurd running (by simp [none_runs ke mem])
  | some kep =>
      obtain ⟨ke, p⟩ := kep
      have hero := (Store.isHero_of_heroAt? sound last).2
      have runs : ∃ ke ∈ s.store.entries, ke.2.isRunning = true := ⟨ke, hero.mem, hero.holds⟩
      rw [strayHero?, last, ← isVisible_eq_false_iff sound last, and_iff_right runs]
      cases s.fork.isForked <;> cases seen : s.viewport.isVisible p s.size <;>
        simp [Option.filter, seen]

/-! ## Reading the rows -/

theorem entryRows_of_rows {v : Snapshot} {above below : List EntryRow} {isForked : Bool}
    (rows : v.rows = above.map .entry ++ [.card isForked] ++ below.map .entry) :
    v.entryRows = above ++ below ∧ v.cards = [.card isForked] := by
  have entries (l : List EntryRow) : (l.map Row.entry).filterMap Row.entry? = l := by
    rw [List.filterMap_map]
    exact List.filterMap_some
  have no_cards (l : List EntryRow) : ((l.map Row.entry).filter fun row => row.entry?.isNone) = [] := by
    simp
  constructor
  · rw [Snapshot.entryRows, rows]
    simp only [List.filterMap_append, entries]
    simp
  · rw [Snapshot.cards, rows]
    simp only [List.filter_append, no_cards]
    simp

theorem length_rows (v : Snapshot) : v.rows.length = v.entryRows.length + v.cards.length := by
  rw [Snapshot.entryRows, Snapshot.cards]
  induction v.rows with
  | nil => rfl
  | cons row rows ih =>
      cases row with
      | entry row =>
          simp only [List.length_cons, List.filterMap_cons, List.filter_cons, Row.entry?_entry, ih]
          exact Nat.add_right_comm _ _ _
      | card isForked =>
          simp only [List.length_cons, List.filterMap_cons, List.filter_cons, Row.entry?_card, ih]
          rfl

theorem rows_snapshot (s : Session) (now : Instant) : (s.snapshot now).rows = s.rows now := rfl

/-- All rows of entries, and all cards. -/
theorem IsPartitioned.entryRows_snapshot (holds : s.IsPartitioned) (now : Instant) :
    (s.snapshot now).entryRows =
      s.window.map (s.rowOf now false) ++ s.strayHero?.toList.map (s.rowOf now true) ∧
    (s.snapshot now).cards = [.card s.fork.isForked] := by
  cases fork : s.fork with
  | live =>
      have rows := rows_of_live holds.sound now fork
      rw [← List.map_append, ← List.append_nil [Row.card false], ← List.append_assoc,
        ← List.map_nil] at rows
      have read := entryRows_of_rows ((rows_snapshot s now).trans rows)
      rwa [List.append_nil] at read
  | below i =>
      have rows := rows_of_below holds.sound now fork (holds.inside i fork)
      rw [List.append_assoc, ← List.map_append] at rows
      obtain ⟨entries, cards⟩ := entryRows_of_rows ((rows_snapshot s now).trans rows)
      rw [← List.append_assoc, ← List.map_append,
        filter_le_append_filter_lt i s.window_sorted] at entries
      exact ⟨entries, cards⟩

theorem IsPartitioned.placed_snapshot (holds : s.IsPartitioned) (now : Instant) :
    (s.snapshot now).placed = s.window.map (s.rowOf now false) := by
  rw [Snapshot.placed, (holds.entryRows_snapshot now).1, List.filter_append]
  simp [List.filter_map, Function.comp_def, rowOf]

theorem IsPartitioned.pinned_snapshot (holds : s.IsPartitioned) (now : Instant) :
    (s.snapshot now).pinned = s.strayHero?.toList.map (s.rowOf now true) := by
  rw [Snapshot.pinned, (holds.entryRows_snapshot now).1, List.filter_append]
  simp [List.filter_map, Function.comp_def, rowOf]

/-- In the window the flags are as the fork says. -/
theorem IsPartitioned.discarded_of_window (holds : s.IsPartitioned) {kep : (Key × Entry) × Nat}
    (mem : kep ∈ s.window) : kep.1.2.discarded = s.fork.discards kep.2 := by
  refine holds.discarded_eq ?_
  rw [holds.sound.entryAt?_eq, (mem_window.mp mem).1]
  rfl

/-- A row of an entry is one of the entry that is there. -/
theorem IsPartitioned.found_of_entryRows (holds : s.IsPartitioned) {row : EntryRow}
    (mem : row ∈ (s.snapshot now).entryRows) :
    s.store.get? row.key = some row.entry ∧ row.isHero = (s.hero.key? == some row.key) := by
  rw [(holds.entryRows_snapshot now).1, List.mem_append, List.mem_map, List.mem_map] at mem
  rcases mem with ⟨kep, mem, rfl⟩ | ⟨kep, mem, rfl⟩
  · have found := List.mem_of_getElem? (mem_window.mp mem).1
    exact ⟨holds.sound.mem_entries.mp found, rfl⟩
  · have last := (Option.filter_eq_some_iff.mp (Option.mem_toList.mp mem)).1
    have hero := (Store.isHero_of_heroAt? holds.sound last).2
    exact ⟨holds.sound.mem_entries.mp hero.mem, rfl⟩

/-- The rows below the card of a fork are those of the entries that are flagged. -/
theorem IsPartitioned.filter_discarded (holds : s.IsPartitioned) (now : Instant) {i : Nat}
    (below : s.fork = .below i) :
    (s.snapshot now).placed.filter (!·.entry.discarded) =
        (s.window.filter (·.2 ≤ i)).map (s.rowOf now false) ∧
      (s.snapshot now).placed.filter (·.entry.discarded) =
        (s.window.filter (i < ·.2)).map (s.rowOf now false) := by
  have flag : ∀ kep ∈ s.window, (s.rowOf now false kep).entry.discarded = decide (i < kep.2) := by
    intro kep mem
    rw [rowOf, holds.discarded_of_window mem, below, Fork.discards]
  rw [holds.placed_snapshot now, List.filter_map, List.filter_map]
  refine ⟨congrArg _ (List.filter_congr fun kep mem => ?_),
    congrArg _ (List.filter_congr fun kep mem => flag kep mem)⟩
  rw [Function.comp_apply, flag kep mem, ← decide_not]
  exact decide_eq_decide.mpr Nat.not_lt

theorem IsPartitioned.shownBy (holds : s.IsPartitioned) (now : Instant) :
    s.ShownBy (s.snapshot now) := by
  have sound : s.store.Sound := holds.sound
  have placed := holds.placed_snapshot now
  have pinned := holds.pinned_snapshot now
  have pinned_le : (s.snapshot now).pinned.length ≤ 1 := by
    rw [pinned, List.length_map]
    cases s.strayHero? <;> simp
  have hero : ∀ row ∈ (s.snapshot now).entryRows,
      row.isHero = true ↔ s.store.IsHero row.key row.entry := by
    intro row mem
    obtain ⟨found, isHero⟩ := holds.found_of_entryRows mem
    rw [isHero, beq_iff_eq]
    exact hero_eq_some_iff sound found
  refine ⟨?_, (holds.entryRows_snapshot now).2, pinned_le, ?_, ?_, hero, ?_, ?_, ?_⟩
  · rw [placed, List.map_map]
    exact List.map_id _
  · rw [← strayHero?_isSome_iff sound, pinned]
    cases s.strayHero? <;> simp
  · intro row mem
    rw [pinned] at mem
    obtain ⟨kep, stray, rfl⟩ := List.mem_map.mp mem
    have last := (Option.filter_eq_some_iff.mp (Option.mem_toList.mp stray)).1
    obtain ⟨at_p, isHero⟩ := Store.isHero_of_heroAt? sound last
    exact ⟨List.mem_zipIdx_iff_getElem?.mpr at_p, isHero⟩
  · intro live
    rw [placed, pinned]
    exact rows_of_live sound now live
  · intro i below
    obtain ⟨kept, gone⟩ := holds.filter_discarded now below
    refine ⟨?_, fun row mem => ?_⟩
    · rw [kept, gone, pinned]
      exact rows_of_below sound now below (holds.inside i below)
    · rw [placed] at mem
      obtain ⟨kep, shown, rfl⟩ := List.mem_map.mp mem
      have flag : kep.1.2.discarded = decide (i < kep.2) := by
        rw [holds.discarded_of_window shown, below, Fork.discards]
      exact (Bool.eq_iff_iff.mp flag).trans decide_eq_true_iff
  · have entries := (holds.entryRows_snapshot now).1
    have window_le := length_window_le sound
    rw [pinned, List.length_map] at pinned_le
    rw [length_rows, (holds.entryRows_snapshot now).2, entries, List.length_append, List.length_map,
      List.length_map, List.length_singleton]
    omega

/-- Every state of every run is shown as it should be, whenever it is drawn. -/
theorem shownBy_run (c : Config) (actions : List Action) (now : Instant) :
    ((start c).run actions).ShownBy (((start c).run actions).snapshot now) :=
  ((isPartitioned_start c).run actions).shownBy now

end Session

end Chronicle
