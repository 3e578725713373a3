import Chronicle.Viewport
import Mathlib.Data.List.Perm.Subperm

/-!
# A window that fits its timeline

`Viewport.Fits v len` says what holds of a window over `len` entries: it has a row at least, it does not
stand lower than it must to show the last entries, it stands there while it follows, and the selection
is an entry.  Every operation that takes the length keeps it (`Fits.scrollDown`, `Fits.navigateDown`,
...), and so do the two changes of the length itself, an entry more (`Fits.onAppend`) and some entries
fewer (`Fits.onEvicted`).

A window that fits shows as many entries as it has rows, or all of them (`Fits.length_visible`).
-/

namespace Chronicle

/-! ## The positions of a span -/

namespace Span

variable {span : Span} {p : Nat}

theorem contains_iff : span.contains p = true ↔ span.start ≤ p ∧ p < span.stop := by
  rw [contains, Bool.and_eq_true, decide_eq_true_eq, decide_eq_true_eq]

theorem mem_toList : p ∈ span.toList ↔ span.contains p = true := by
  rw [contains_iff, toList, List.mem_map]
  simp only [List.mem_range]
  constructor
  · rintro ⟨q, lt, rfl⟩
    omega
  · rintro ⟨le, lt⟩
    exact ⟨p - span.start, by omega, by omega⟩

theorem toList_sorted (span : Span) : span.toList.Pairwise (· < ·) :=
  List.pairwise_map.mpr (List.pairwise_lt_range.imp fun lt => Nat.add_lt_add_left lt _)

end Span

namespace Viewport

variable {v : Viewport} {len : Nat}

structure Fits (v : Viewport) (len : Nat) : Prop where
  rows_pos : 1 ≤ v.rows
  offset_le : v.offset ≤ v.maxOffset len
  at_end : v.follow = true → v.offset = v.maxOffset len
  selected_lt : ∀ p, v.selected = some p → p < len

theorem Fits.ofRows (rows : Nat) : (ofRows rows).Fits 0 where
  rows_pos := Nat.le_max_right _ _
  offset_le := Nat.zero_le _
  at_end _ := (Nat.zero_sub _).symm
  selected_lt p selected := by simp [Viewport.ofRows] at selected

/-! ## What a window that fits shows -/

theorem Fits.hasMoreBelow (fits : v.Fits len) (follows : v.follow = true) :
    v.hasMoreBelow len = false := by
  have at_end := fits.at_end follows
  unfold maxOffset at at_end
  refine decide_eq_false ?_
  simp only [visible]
  omega

theorem Fits.length_visible (fits : v.Fits len) :
    (v.visible len).stop - (v.visible len).start = min v.rows len := by
  have bound := fits.offset_le
  simp only [maxOffset] at bound
  simp only [visible]
  omega

/-- An entry is visible from the first row of the window to the last. -/
theorem isVisible_iff {p : Nat} :
    v.isVisible p len = true ↔ v.offset ≤ p ∧ p < v.offset + v.rows ∧ p < len := by
  rw [isVisible, Span.contains_iff]
  simp only [visible]
  omega

/-! ## Scrolling -/

theorem Fits.scrollUp (fits : v.Fits len) (n : Nat) : (v.scrollUp n).Fits len where
  rows_pos := fits.rows_pos
  offset_le := Nat.le_trans (Nat.sub_le _ _) fits.offset_le
  at_end follows := by simp [Viewport.scrollUp] at follows
  selected_lt := fits.selected_lt

/-- Following comes with standing at the end: a window that followed stood there already. -/
theorem Fits.scrollDown (fits : v.Fits len) (n : Nat) : (v.scrollDown n len).Fits len where
  rows_pos := fits.rows_pos
  offset_le := Nat.min_le_right _ _
  at_end follows := by
    simp only [Viewport.scrollDown, Bool.or_eq_true, beq_iff_eq] at follows ⊢
    rcases follows with follows | ends
    · rw [fits.at_end follows]
      exact Nat.min_eq_right (Nat.le_add_right _ _)
    · exact ends
  selected_lt := fits.selected_lt

theorem Fits.scrollToTop (fits : v.Fits len) : v.scrollToTop.Fits len where
  rows_pos := fits.rows_pos
  offset_le := Nat.zero_le _
  at_end follows := by simp [Viewport.scrollToTop] at follows
  selected_lt := fits.selected_lt

theorem Fits.scrollToEnd (rows_pos : 1 ≤ v.rows)
    (selected_lt : ∀ p, v.selected = some p → p < len) : (v.scrollToEnd len).Fits len where
  rows_pos := rows_pos
  offset_le := Nat.le_refl _
  at_end _ := rfl
  selected_lt := selected_lt

/-! ## Another length, another height -/

/-- Settling mends the offset, whatever it was. -/
theorem Fits.settle (rows_pos : 1 ≤ v.rows) (selected_lt : ∀ p, v.selected = some p → p < len) :
    (v.settle len).Fits len := by
  rw [Viewport.settle]
  split
  · exact ⟨rows_pos, Nat.le_refl _, fun _ => rfl, selected_lt⟩
  · next stays =>
      exact ⟨rows_pos, Nat.min_le_right _ _, fun follows => absurd follows stays, selected_lt⟩

theorem Fits.resize (fits : v.Fits len) (rows : Nat) : (v.resize rows len).Fits len :=
  Fits.settle (Nat.le_max_right _ _) fits.selected_lt

theorem Fits.onAppend (fits : v.Fits len) : (v.onAppend (len + 1)).Fits (len + 1) := by
  have selected_lt : ∀ p, v.selected = some p → p < len + 1 :=
    fun p selected => Nat.lt_succ_of_lt (fits.selected_lt p selected)
  rw [Viewport.onAppend]
  split
  · exact ⟨fits.rows_pos, Nat.le_refl _, fun _ => rfl, selected_lt⟩
  · next stays =>
      refine ⟨fits.rows_pos, ?_, fun follows => absurd follows stays, selected_lt⟩
      have bound := fits.offset_le
      simp only [maxOffset] at bound ⊢
      omega

/-- Distinct numbers between two bounds are no more than there are. -/
theorem length_le_of_nodup {l : List Nat} (nodup : l.Nodup) {a b : Nat}
    (bounds : ∀ n ∈ l, a ≤ n ∧ n < b) : l.length ≤ b - a := by
  have subset : l ⊆ List.range' a (b - a) := by
    intro n mem
    have := bounds n mem
    rw [List.mem_range'_1]
    omega
  have := (nodup.subperm subset).length_le
  rwa [List.length_range'] at this

/-- The entries that stay behind a position that stays are those of the rest that are not removed. -/
theorem sub_countBefore_lt {removed : List Nat} (nodup : removed.Nodup)
    (inside : ∀ q ∈ removed, q < len) {p : Nat} (lt : p < len) (stays : p ∉ removed) :
    p - countBefore removed p < len - removed.length ∨ len = removed.length := by
  have split := List.length_eq_countP_add_countP (fun q => decide (q < p)) (l := removed)
  have behind : (removed.filter fun q => ¬ q < p).length ≤ len - (p + 1) := by
    refine length_le_of_nodup (nodup.filter _) fun q mem => ?_
    obtain ⟨mem, not_before⟩ := List.mem_filter.mp mem
    have other : q ≠ p := fun same => stays (same ▸ mem)
    have := inside q mem
    simp only [decide_eq_true_eq] at not_before
    omega
  have all : removed.length ≤ len := by
    have := length_le_of_nodup nodup (a := 0) (b := len) fun q mem => ⟨Nat.zero_le _, inside q mem⟩
    omega
  rw [← List.countP_eq_length_filter] at behind
  simp only [countBefore]
  simp only [decide_not, Bool.decide_eq_true] at behind split
  omega

/-- The window that is left fits what is left, when distinct positions were removed. -/
theorem Fits.onEvicted (fits : v.Fits len) {removed : List Nat} (nodup : removed.Nodup)
    (inside : ∀ q ∈ removed, q < len) :
    (v.onEvicted removed (len - removed.length)).Fits (len - removed.length) := by
  refine Fits.settle fits.rows_pos fun p selected => ?_
  obtain ⟨p, was, now⟩ := Option.bind_eq_some_iff.mp selected
  split at now
  · exact absurd now (by simp)
  · next stays =>
      simp only [Bool.or_eq_true, List.contains_iff_mem, beq_iff_eq, not_or] at stays
      obtain rfl := Option.some.inj now
      have := sub_countBefore_lt nodup inside (fits.selected_lt p was) stays.1
      omega

/-! ## The selection -/

theorem reveal_frame (v : Viewport) (p len : Nat) :
    (v.reveal p len).rows = v.rows ∧ (v.reveal p len).follow = v.follow ∧
      (v.reveal p len).selected = v.selected := by
  rw [reveal]
  split
  · exact ⟨rfl, rfl, rfl⟩
  · split
    · exact ⟨rfl, rfl, rfl⟩
    · split <;> exact ⟨rfl, rfl, rfl⟩

/-- Revealing an entry moves the window no lower than the end. -/
theorem Fits.offset_reveal_le (fits : v.Fits len) (p : Nat) :
    (v.reveal p len).offset ≤ v.maxOffset len := by
  have bound := fits.offset_le
  unfold maxOffset at bound ⊢
  rw [reveal]
  split
  · exact bound
  · split
    · simp only
      omega
    · split
      · simp only
        omega
      · exact bound

/-- An entry in the window is revealed without a move. -/
theorem reveal_of_visible {p : Nat} (from_start : v.offset ≤ p) (inside : p < v.offset + v.rows) :
    v.reveal p len = v := by
  rw [reveal]
  rw [if_neg (Nat.not_lt.mpr from_start), if_neg (Nat.not_le.mpr inside), ite_self]

theorem isVisible_reveal {p : Nat} (rows_pos : 1 ≤ v.rows) (lt : p < len) :
    (v.reveal p len).isVisible p len = true := by
  rw [isVisible_iff, reveal, if_neg (Nat.not_le.mpr lt)]
  split
  · simp only
    omega
  · split
    · simp only
      omega
    · omega

theorem Fits.reveal_detach (fits : v.Fits len) (p : Nat) : (v.reveal p len).detach.Fits len := by
  obtain ⟨rows, -, selected⟩ := v.reveal_frame p len
  refine ⟨?_, ?_, fun follows => by simp [Viewport.detach] at follows, ?_⟩
  · exact rows.symm ▸ fits.rows_pos
  · have bound := fits.offset_reveal_le p
    unfold maxOffset at bound ⊢
    exact rows.symm ▸ bound
  · intro q at_q
    exact fits.selected_lt q (selected.symm.trans at_q)

theorem Fits.select (fits : v.Fits len) {p : Nat} (lt : p < len) :
    Fits { v with selected := some p } len where
  rows_pos := fits.rows_pos
  offset_le := fits.offset_le
  at_end := fits.at_end
  selected_lt _ selected := Option.some.inj selected ▸ lt

theorem select_frame (v : Viewport) (p len : Nat) :
    (v.select (some p) len).rows = v.rows ∧
      ∀ q, (v.select (some p) len).selected = some q → q < len := by
  simp only [Viewport.select]
  split
  · exact ⟨rfl, fun q at_q => absurd at_q (by simp)⟩
  · next nonempty =>
      have lt : min p (len - 1) < len := by omega
      obtain ⟨rows, -, selected⟩ :=
        reveal_frame { v with selected := some (min p (len - 1)) } (min p (len - 1)) len
      exact ⟨rows, fun q at_q => Option.some.inj (selected.symm.trans at_q) ▸ lt⟩

theorem selected_select {p : Nat} (lt : p < len) : (v.select (some p) len).selected = some p := by
  have last : min p (len - 1) = p := Nat.min_eq_left (Nat.le_sub_one_of_lt lt)
  simp only [Viewport.select, if_neg (Nat.ne_of_gt (Nat.zero_lt_of_lt lt)), last]
  exact (reveal_frame _ p len).2.2

theorem Fits.select_centerOn (fits : v.Fits len) (p q : Nat) :
    ((v.select (some p) len).centerOn q len).Fits len := by
  obtain ⟨rows, selected_lt⟩ := v.select_frame p len
  refine ⟨?_, Nat.min_le_right _ _, fun follows => by simp [centerOn] at follows, selected_lt⟩
  exact rows.symm ▸ fits.rows_pos

/-- The middle of the window is within it, and where the ends do not let an entry come to the middle it is
on one side of it. -/
theorem isVisible_centerOn {p : Nat} (rows_pos : 1 ≤ v.rows) (lt : p < len) :
    (v.centerOn p len).isVisible p len = true := by
  rw [isVisible_iff]
  simp only [centerOn, maxOffset]
  omega

/-! ## Navigation -/

/-- A step never passes the last position, even of a cursor that stands beyond it. -/
theorem step_le {s : Span} {last : Nat} (stop_le : s.stop ≤ last + 1) (d : Direction)
    (current : Nat) : s.step d current last ≤ last := by
  unfold Span.step
  split
  · exact Nat.min_le_right _ _
  · split
    · exact Nat.min_le_right _ _
    · split
      · exact Nat.min_le_right _ _
      · cases d with
        | up =>
            simp only
            omega
        | down => exact Nat.min_le_right _ _

/-- From a position in the window a step goes to the next one. -/
theorem step_of_contains {s : Span} {current last : Nat} (inside : s.contains current = true) :
    s.step .up current last = current - 1 ∧ s.step .down current last = min (current + 1) last := by
  rw [Span.contains_iff] at inside
  have nonempty : s.isEmpty = false := by
    simp only [Span.isEmpty, decide_eq_false_iff_not]
    omega
  have not_before : ¬ current < s.start := Nat.not_lt.mpr inside.1
  have not_beyond : ¬ s.stop ≤ current := Nat.not_le.mpr inside.2
  constructor
  · simp [Span.step, nonempty, not_before, not_beyond]
  · simp [Span.step, nonempty, not_before, not_beyond]

/-- So it goes with the window over a timeline that is not empty. -/
theorem step_visible_lt (v : Viewport) (nonempty : len ≠ 0) (d : Direction) (current : Nat) :
    (v.visible len).step d current (len - 1) < len := by
  have stop_le : (v.visible len).stop ≤ len := Nat.min_le_right _ _
  have := step_le (show (v.visible len).stop ≤ len - 1 + 1 by omega) d current
  omega

theorem Fits.navigateUp (fits : v.Fits len) : (v.navigateUp len).Fits len := by
  rw [Viewport.navigateUp]
  split
  · exact fits
  · next nonempty =>
      refine Fits.reveal_detach (Fits.select fits ?_) _
      cases at_p : v.selected with
      | none =>
          have stop_le : (v.visible len).stop ≤ len := Nat.min_le_right _ _
          simp only
          omega
      | some p => exact v.step_visible_lt nonempty .up p

theorem start_le_step_down {s : Span} {last : Nat} (nonempty : s.start < s.stop)
    (stop_le : s.stop ≤ last + 1) (current : Nat) : s.start ≤ s.step .down current last := by
  have start_le : s.start ≤ last := by omega
  have has_some : ¬ s.isEmpty = true := by simpa [Span.isEmpty] using nonempty
  unfold Span.step
  rw [if_neg has_some]
  split
  · omega
  · split
    · omega
    · simp only
      omega

/-- From the window of one that follows, a step down stays in the window. -/
theorem Fits.step_down_visible (fits : v.Fits len) (follows : v.follow = true) {p : Nat}
    (lt : p < len) :
    v.offset ≤ (v.visible len).step .down p (len - 1) ∧
      (v.visible len).step .down p (len - 1) < v.offset + v.rows := by
  have at_end := fits.at_end follows
  have rows_pos := fits.rows_pos
  unfold maxOffset at at_end
  have start : (v.visible len).start = v.offset := by
    simp only [visible]
    omega
  have stop : (v.visible len).stop = len := by
    simp only [visible]
    omega
  have nonempty : (v.visible len).start < (v.visible len).stop := by omega
  have not_before := start_le_step_down nonempty (show _ ≤ len - 1 + 1 by omega) p
  have not_beyond := v.step_visible_lt (show len ≠ 0 by omega) .down p
  omega

/-- The last entry is followed.  Any other that a window shows which follows is selected without a
move, so the window goes on following. -/
theorem Fits.reveal_down (fits : v.Fits len) {next : Nat} (lt : next < len)
    (shown : v.follow = true → v.offset ≤ next ∧ next < v.offset + v.rows) :
    Fits (if next = len - 1 then (reveal { v with selected := some next } next len).scrollToEnd len
      else reveal { v with selected := some next } next len) len := by
  obtain ⟨rows, follow, selected⟩ := reveal_frame { v with selected := some next } next len
  have rows_pos : 1 ≤ (reveal { v with selected := some next } next len).rows :=
    rows.symm ▸ fits.rows_pos
  have selected_lt : ∀ q, (reveal { v with selected := some next } next len).selected = some q →
      q < len := by
    intro q at_q
    exact Option.some.inj (selected.symm.trans at_q) ▸ lt
  split
  · exact .scrollToEnd rows_pos selected_lt
  · by_cases follows : v.follow = true
    · obtain ⟨from_start, inside⟩ := shown follows
      rw [reveal_of_visible (v := { v with selected := some next }) from_start inside]
      exact fits.select lt
    · have offset_le := Fits.offset_reveal_le (fits.select lt) next
      unfold maxOffset at offset_le
      exact ⟨rows_pos, by unfold maxOffset; exact rows.symm ▸ offset_le,
        fun follows' => absurd (follow.symm.trans follows') follows, selected_lt⟩

theorem Fits.navigateDown (fits : v.Fits len) : (v.navigateDown len).Fits len := by
  rw [Viewport.navigateDown]
  split
  · exact fits
  · next nonempty =>
      have rows_pos := fits.rows_pos
      cases at_p : v.selected with
      | none =>
          have bound := fits.offset_le
          unfold maxOffset at bound
          refine fits.reveal_down ?_ fun _ => ?_
          · simp only [visible]
            omega
          · simp only [visible]
            omega
      | some p =>
          exact fits.reveal_down (v.step_visible_lt nonempty .down p) fun follows =>
            fits.step_down_visible follows (fits.selected_lt p at_p)

end Viewport

end Chronicle
