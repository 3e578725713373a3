import Chronicle.Proofs.Session.Discarding
import Mathlib.Data.Nat.SuccPred

/-!
# Stepping from one end to the other

The card and the selection move by one rule.  From out of the window a step goes to the nearer end of the
window, be it against its own direction; within the window it goes to the next entry, and the window is
moved just so far that it shows that entry.  So one step brings the card or the selection into the window,
and from there each step counts (`reaches_pressing`): as many steps as there are entries are enough to
come from anywhere to the first entry or to the last (`stepsAcross_run`).
-/

namespace Chronicle

/-- A cursor that goes down comes to the last position. -/
theorem iterate_succ_min {p last : Nat} (le : p ≤ last) (k : Nat) :
    (fun p => min (p + 1) last)^[k] p = min (p + k) last := by
  induction k with
  | zero => exact (Nat.min_eq_left le).symm
  | succ k ih =>
      rw [Function.iterate_succ_apply', ih]
      omega

namespace Viewport

variable {v : Viewport} {len : Nat}

/-- A step up selects an entry in the window; from an entry that was in the window already it selects the
one above it. -/
theorem Fits.selected_navigateUp (fits : v.Fits len) (nonempty : len ≠ 0) :
    ∃ p < len, (v.navigateUp len).selected = some p ∧ (v.navigateUp len).isVisible p len = true ∧
      ∀ q, v.selected = some q → v.isVisible q len = true → p = q - 1 := by
  have shows (next : Nat) (lt : next < len) :
      (reveal { v with selected := some next } next len).detach.selected = some next ∧
        (reveal { v with selected := some next } next len).detach.isVisible next len = true :=
    ⟨(reveal_frame _ next len).2.2, isVisible_reveal fits.rows_pos lt⟩
  rw [Viewport.navigateUp, if_neg nonempty]
  cases selected : v.selected with
  | none =>
      have lt : (v.visible len).stop - 1 < len := by
        simp only [visible]
        omega
      refine ⟨_, lt, (shows _ lt).1, (shows _ lt).2, ?_⟩
      intro q at_q
      exact absurd at_q (by simp)
  | some p =>
      have lt := v.step_visible_lt nonempty .up p
      refine ⟨_, lt, (shows _ lt).1, (shows _ lt).2, ?_⟩
      intro q at_q seen
      obtain rfl := Option.some.inj at_q
      exact (step_of_contains seen).1

/-- So does a step down, and the last entry is followed. -/
theorem Fits.selected_navigateDown (fits : v.Fits len) (nonempty : len ≠ 0) :
    ∃ p < len, (v.navigateDown len).selected = some p ∧ (v.navigateDown len).isVisible p len = true ∧
      (p + 1 = len → (v.navigateDown len).follow = true) ∧
      ∀ q, v.selected = some q → v.isVisible q len = true → p = min (q + 1) (len - 1) := by
  have rows_pos := fits.rows_pos
  have shows (next : Nat) (lt : next < len) (w : Viewport)
      (is : w = if next = len - 1 then
          (reveal { v with selected := some next } next len).scrollToEnd len
        else reveal { v with selected := some next } next len) :
      w.selected = some next ∧ w.isVisible next len = true ∧ (next + 1 = len → w.follow = true) := by
    obtain ⟨rows, -, selected⟩ := reveal_frame { v with selected := some next } next len
    subst is
    split
    · refine ⟨selected, ?_, fun _ => rfl⟩
      rw [isVisible_iff]
      simp only [Viewport.scrollToEnd, maxOffset, rows]
      omega
    · refine ⟨selected, isVisible_reveal rows_pos lt, ?_⟩
      intro last
      omega
  rw [Viewport.navigateDown, if_neg nonempty]
  cases selected : v.selected with
  | none =>
      have lt : (v.visible len).start < len := by
        have bound := fits.offset_le
        unfold maxOffset at bound
        simp only [visible]
        omega
      obtain ⟨at_p, seen, follows⟩ := shows _ lt _ rfl
      refine ⟨_, lt, at_p, seen, follows, ?_⟩
      intro q at_q
      exact absurd at_q (by simp)
  | some p =>
      have lt := v.step_visible_lt nonempty .down p
      obtain ⟨at_p, seen, follows⟩ := shows _ lt _ rfl
      refine ⟨_, lt, at_p, seen, follows, ?_⟩
      intro q at_q seen
      obtain rfl := Option.some.inj at_q
      exact (step_of_contains seen).2

end Viewport

namespace Session

variable {s : Session} {c : Command} {n p : Nat}

/-- A command that is given again and again, each time at a time of its own. -/
def pressing (c : Command) (times : List Instant) : List Action :=
  times.map fun now => .handle (.command c) now

/-- If the first step leads to some position, and each other one from a position to the one after it, then
this is where a series of steps leads. -/
theorem reaches_pressing (stands : Nat → Session → Prop) (next : Nat → Nat)
    (first : ∀ now, ∃ p < n, stands p (s.perform (.handle (.command c) now)))
    (more : ∀ s p now, stands p s → stands (next p) (s.perform (.handle (.command c) now)))
    {times : List Instant} (some_times : times ≠ []) :
    ∃ p < n, stands (next^[times.length - 1] p) (s.run (pressing c times)) := by
  obtain ⟨now, times, rfl⟩ := List.exists_cons_of_ne_nil some_times
  rw [List.length_cons, Nat.add_sub_cancel]
  induction times using List.reverseRecOn with
  | nil => exact first now
  | append_singleton times later ih =>
      obtain ⟨p, lt, there⟩ := ih (List.cons_ne_nil now times)
      refine ⟨p, lt, ?_⟩
      have last : s.run (pressing c (now :: (times ++ [later]))) =
          (s.run (pressing c (now :: times))).perform (.handle (.command c) later) := by
        rw [pressing, ← List.cons_append, List.map_append, run_append]
        rfl
      rw [last, List.length_append, List.length_singleton, Function.iterate_succ_apply']
      exact more _ _ later there

/-! ## The card -/

/-- The card is below an entry that the window shows. -/
structure CardStands (n p : Nat) (s : Session) : Prop where
  framed : s.IsFramed
  size : s.size = n
  fork : s.fork = .below p
  seen : s.viewport.isVisible p n = true

/-- The window goes with the card. -/
theorem IsFramed.cardStands (framed : s.IsFramed) (lt : p < s.size) :
    CardStands s.size p (s.applyFork (.ok (.below p), (Fork.below p).partition s.store)).2 := by
  have inside : ∀ i, Fork.below p = .below i → i < s.size := by
    intro i same
    exact Fork.below.inj same ▸ lt
  have viewport : (s.applyFork (.ok (.below p), (Fork.below p).partition s.store)).2.viewport =
      (s.viewport.reveal p s.size).detach := by
    show (s.viewport.reveal p ((Fork.below p).partition s.store).size).detach = _
    rw [Fork.size_partition]
    rfl
  refine ⟨?framed, ?size, rfl, ?seen⟩
  case framed =>
    refine preserves_of_step framed (turn_moves s (.below p) inside) ?_
    intro s₁ s₂ move framed
    exact framed.move move
  case size => exact Fork.size_partition (.below p) s.store
  case seen =>
    rw [viewport]
    exact Viewport.isVisible_reveal framed.fits.rows_pos lt

/-- Wherever the card was, a move up puts it below an entry in the window. -/
theorem IsFramed.moveForkUp (framed : s.IsFramed) (nonempty : s.size ≠ 0) :
    ∃ p < s.size, CardStands s.size p s.moveForkUp.2 := by
  have lt := s.viewport.step_visible_lt nonempty .up s.cardAt
  rw [moveForkUp_eq nonempty]
  exact ⟨_, lt, framed.cardStands lt⟩

theorem CardStands.moveForkUp (stands : CardStands n p s) : CardStands n (p - 1) s.moveForkUp.2 := by
  obtain ⟨framed, rfl, fork, seen⟩ := stands
  have lt : p < s.size := (Viewport.isVisible_iff.mp seen).2.2
  have here : s.cardAt = p := by rw [cardAt, fork]; rfl
  rw [moveForkUp_eq (Nat.ne_of_gt (Nat.zero_lt_of_lt lt)), here, visible,
    (Viewport.step_of_contains seen).1]
  exact framed.cardStands (Nat.lt_of_le_of_lt (Nat.sub_le p 1) lt)

/-- The card on its way down: the session is live once the card has come below the last entry. -/
inductive CardSinks (n : Nat) : Nat → Session → Prop where
  | stands {p : Nat} {s : Session} (above : p + 1 < n) (stands : CardStands n p s) : CardSinks n p s
  | live {p : Nat} {s : Session} (last : p + 1 = n) (live : s.fork = .live) : CardSinks n p s

theorem IsFramed.cardSinks (framed : s.IsFramed) (lt : p < s.size) :
    CardSinks s.size p (s.applyFork (.ok (Fork.belowOrLive p s.size),
      (Fork.belowOrLive p s.size).partition s.store)).2 := by
  rw [Fork.belowOrLive]
  split
  · next last =>
      refine .live (by omega) ?_
      obtain ⟨store, tokens, evicted, viewport, search, same⟩ := enforceHistoryCap_frame
        (({ s with fork := .live, store := Fork.live.partition s.store } : Session).moveWindow
          Viewport.scrollToEnd)
      exact congrArg Session.fork same
  · exact .stands (by omega) (framed.cardStands lt)

/-- A session that is live stays so when its card is moved down. -/
theorem fork_moveForkDown (live : s.fork = .live) : s.moveForkDown.2.fork = .live := by
  obtain ⟨store, tokens, evicted, viewport, search, same⟩ :=
    enforceHistoryCap_frame (({ s with fork := .live } : Session).moveWindow Viewport.scrollToEnd)
  unfold moveForkDown Fork.moveDown
  split
  · exact live
  · split
    · exact congrArg Session.fork same
    · next current below => exact absurd (live.symm.trans below) (by simp)

theorem moveForkDown_eq (nonempty : s.size ≠ 0) {i : Nat} (below : s.fork = .below i) :
    s.moveForkDown.2 = (s.applyFork
      (.ok (Fork.belowOrLive (s.visible.step .down i (s.size - 1)) s.size),
        (Fork.belowOrLive (s.visible.step .down i (s.size - 1)) s.size).partition s.store)).2 := by
  have moved : s.fork.moveDown s.store s.visible =
      (.ok (Fork.belowOrLive (s.visible.step .down i (s.size - 1)) s.size),
        (Fork.belowOrLive (s.visible.step .down i (s.size - 1)) s.size).partition s.store) := by
    rw [below, Fork.moveDown]
    exact if_neg nonempty
  rw [moveForkDown, moved]

theorem IsFramed.moveForkDown (framed : s.IsFramed) (nonempty : s.size ≠ 0) :
    ∃ p < s.size, CardSinks s.size p s.moveForkDown.2 := by
  cases fork : s.fork with
  | live =>
      refine ⟨s.size - 1, Nat.sub_one_lt nonempty, .live ?_ (fork_moveForkDown fork)⟩
      exact Nat.sub_one_add_one nonempty
  | below i =>
      have lt := s.viewport.step_visible_lt nonempty .down i
      rw [moveForkDown_eq nonempty fork]
      exact ⟨_, lt, framed.cardSinks lt⟩

theorem CardSinks.moveForkDown (sinks : CardSinks n p s) :
    CardSinks n (min (p + 1) (n - 1)) s.moveForkDown.2 := by
  cases sinks with
  | live last live => exact .live (by omega) (fork_moveForkDown live)
  | stands above stands =>
      obtain ⟨framed, rfl, fork, seen⟩ := stands
      rw [moveForkDown_eq (Nat.ne_of_gt (Nat.zero_lt_of_lt above)) fork, visible,
        (Viewport.step_of_contains seen).2]
      exact framed.cardSinks (by omega)

/-! ## The selection -/

/-- An entry that the window shows is selected, and the timeline is as it was. -/
structure SelectionStands (store : Store) (p : Nat) (s : Session) : Prop where
  framed : s.IsFramed
  store : s.store = store
  selected : s.viewport.selected = some p
  seen : s.viewport.isVisible p s.size = true

theorem IsFramed.navigateUp (framed : s.IsFramed) (nonempty : s.size ≠ 0) :
    ∃ p < s.size, SelectionStands s.store p (s.moveWindow Viewport.navigateUp) ∧
      ∀ q, s.viewport.selected = some q → s.viewport.isVisible q s.size = true → p = q - 1 := by
  obtain ⟨p, lt, selected, seen, next⟩ := framed.fits.selected_navigateUp nonempty
  exact ⟨p, lt, ⟨⟨framed.sound, framed.fits.navigateUp⟩, rfl, selected, seen⟩, next⟩

/-- The selection on its way down: the last entry is followed. -/
structure SelectionSinks (store : Store) (p : Nat) (s : Session) : Prop where
  stands : SelectionStands store p s
  follow : p + 1 = s.size → s.viewport.follow = true

theorem IsFramed.navigateDown (framed : s.IsFramed) (nonempty : s.size ≠ 0) :
    ∃ p < s.size, SelectionSinks s.store p (s.moveWindow Viewport.navigateDown) ∧
      ∀ q, s.viewport.selected = some q → s.viewport.isVisible q s.size = true →
        p = min (q + 1) (s.size - 1) := by
  obtain ⟨p, lt, selected, seen, follow, next⟩ := framed.fits.selected_navigateDown nonempty
  exact ⟨p, lt, ⟨⟨⟨framed.sound, framed.fits.navigateDown⟩, rfl, selected, seen⟩, follow⟩, next⟩

/-! ## Series of steps -/

theorem IsFramed.run_moveForkUp (framed : s.IsFramed) (nonempty : s.size ≠ 0)
    {times : List Instant} (some_times : times ≠ []) :
    ∃ p < s.size, CardStands s.size (p - (times.length - 1)) (s.run (pressing .moveForkUp times)) := by
  obtain ⟨p, lt, there⟩ := reaches_pressing (CardStands s.size) Nat.pred (c := .moveForkUp)
    (fun _ => framed.moveForkUp nonempty) (fun _ _ _ stands => stands.moveForkUp) some_times
  rw [Nat.pred_iterate] at there
  exact ⟨p, lt, there⟩

theorem IsFramed.run_moveForkDown (framed : s.IsFramed) (nonempty : s.size ≠ 0)
    {times : List Instant} (some_times : times ≠ []) :
    ∃ p < s.size, CardSinks s.size (min (p + (times.length - 1)) (s.size - 1))
      (s.run (pressing .moveForkDown times)) := by
  obtain ⟨p, lt, there⟩ := reaches_pressing (CardSinks s.size) (fun p => min (p + 1) (s.size - 1))
    (c := .moveForkDown) (fun _ => framed.moveForkDown nonempty) (fun _ _ _ sinks => sinks.moveForkDown)
    some_times
  rw [iterate_succ_min (Nat.le_sub_one_of_lt lt)] at there
  exact ⟨p, lt, there⟩

theorem IsFramed.run_navigateUp (framed : s.IsFramed) (nonempty : s.size ≠ 0)
    {times : List Instant} (some_times : times ≠ []) :
    ∃ p < s.size, SelectionStands s.store (p - (times.length - 1))
      (s.run (pressing .navigateUp times)) := by
  have first (now : Instant) :
      ∃ p < s.size, SelectionStands s.store p (s.perform (.handle (.command .navigateUp) now)) := by
    obtain ⟨p, lt, stands, -⟩ := framed.navigateUp nonempty
    exact ⟨p, lt, stands⟩
  have more (s₁ : Session) (p : Nat) (now : Instant) (stands : SelectionStands s.store p s₁) :
      SelectionStands s.store (p - 1) (s₁.perform (.handle (.command .navigateUp) now)) := by
    have size : s₁.size = s.size := congrArg Store.size stands.store
    obtain ⟨q, lt, stands', next⟩ := stands.framed.navigateUp (size ▸ nonempty)
    rw [stands.store, next p stands.selected stands.seen] at stands'
    exact stands'
  obtain ⟨p, lt, there⟩ := reaches_pressing (SelectionStands s.store) Nat.pred first more some_times
  rw [Nat.pred_iterate] at there
  exact ⟨p, lt, there⟩

theorem IsFramed.run_navigateDown (framed : s.IsFramed) (nonempty : s.size ≠ 0)
    {times : List Instant} (some_times : times ≠ []) :
    ∃ p < s.size, SelectionSinks s.store (min (p + (times.length - 1)) (s.size - 1))
      (s.run (pressing .navigateDown times)) := by
  have first (now : Instant) :
      ∃ p < s.size, SelectionSinks s.store p (s.perform (.handle (.command .navigateDown) now)) := by
    obtain ⟨p, lt, sinks, -⟩ := framed.navigateDown nonempty
    exact ⟨p, lt, sinks⟩
  have more (s₁ : Session) (p : Nat) (now : Instant) (sinks : SelectionSinks s.store p s₁) :
      SelectionSinks s.store (min (p + 1) (s.size - 1))
        (s₁.perform (.handle (.command .navigateDown) now)) := by
    have stands := sinks.stands
    have size : s₁.size = s.size := congrArg Store.size stands.store
    obtain ⟨q, lt, sinks', next⟩ := stands.framed.navigateDown (size ▸ nonempty)
    rw [stands.store, next p stands.selected stands.seen, size] at sinks'
    exact sinks'
  obtain ⟨p, lt, there⟩ := reaches_pressing (SelectionSinks s.store) (fun p => min (p + 1) (s.size - 1))
    first more some_times
  rw [iterate_succ_min (Nat.le_sub_one_of_lt lt)] at there
  exact ⟨p, lt, there⟩

/-! ## From end to end -/

/-- From anywhere, as many steps as there are entries lead to the first entry or to the last, and whatever is
moved is in the window after each of them. -/
structure StepsAcross (s : Session) : Prop where
  cardUp : ∀ times : List Instant, times.length = s.size →
    (s.run (pressing .moveForkUp times)).fork = .below 0
  cardDown : ∀ times : List Instant, times.length = s.size →
    (s.run (pressing .moveForkDown times)).fork = .live ∧
      ∀ ke ∈ (s.run (pressing .moveForkDown times)).store.entries, ke.2.discarded = false
  selectionUp : ∀ times : List Instant, times.length = s.size →
    (s.run (pressing .navigateUp times)).viewport.selected = some 0 ∧
      (s.run (pressing .navigateUp times)).store = s.store
  selectionDown : ∀ times : List Instant, times.length = s.size →
    (s.run (pressing .navigateDown times)).viewport.selected = some (s.size - 1) ∧
      (s.run (pressing .navigateDown times)).viewport.follow = true ∧
      (s.run (pressing .navigateDown times)).store = s.store
  /-- However often the card has been moved one way, it is in the window. -/
  cardSeen : ∀ c, c = .moveForkUp ∨ c = .moveForkDown → ∀ times : List Instant, times ≠ [] →
    ∀ i, (s.run (pressing c times)).fork = .below i →
      (s.run (pressing c times)).viewport.isVisible i (s.run (pressing c times)).size = true
  /-- However often the selection has been moved one way, there is one, and it is in the window. -/
  selectionSeen : ∀ c, c = .navigateUp ∨ c = .navigateDown → ∀ times : List Instant, times ≠ [] →
    ∃ p, (s.run (pressing c times)).viewport.selected = some p ∧
      (s.run (pressing c times)).viewport.isVisible p (s.run (pressing c times)).size = true

theorem IsFramed.stepsAcross (framed : s.IsFramed) (holds : s.IsPartitioned) (nonempty : s.size ≠ 0) :
    s.StepsAcross := by
  have some_times {times : List Instant} (all : times.length = s.size) : times ≠ [] := by
    intro none
    rw [none] at all
    exact nonempty all.symm
  refine ⟨?cardUp, ?cardDown, ?selectionUp, ?selectionDown, ?cardSeen, ?selectionSeen⟩
  case cardUp =>
    intro times all
    obtain ⟨p, lt, stands⟩ := framed.run_moveForkUp nonempty (some_times all)
    rw [all, Nat.sub_eq_zero_of_le (Nat.le_sub_one_of_lt lt)] at stands
    exact stands.fork
  case cardDown =>
    intro times all
    have flagged := holds.run (pressing .moveForkDown times)
    have live : (s.run (pressing .moveForkDown times)).fork = .live := by
      obtain ⟨p, lt, sinks⟩ := framed.run_moveForkDown nonempty (some_times all)
      cases sinks with
      | stands above stands => omega
      | live last live => exact live
    refine ⟨live, ?_⟩
    intro ke mem
    exact Fork.Partitions.discarded_of_live flagged live mem
  case selectionUp =>
    intro times all
    obtain ⟨p, lt, stands⟩ := framed.run_navigateUp nonempty (some_times all)
    rw [all, Nat.sub_eq_zero_of_le (Nat.le_sub_one_of_lt lt)] at stands
    exact ⟨stands.selected, stands.store⟩
  case selectionDown =>
    intro times all
    obtain ⟨p, lt, sinks⟩ := framed.run_navigateDown nonempty (some_times all)
    rw [all, Nat.min_eq_right (Nat.le_add_left _ p)] at sinks
    have size : (s.run (pressing .navigateDown times)).size = s.size :=
      congrArg Store.size sinks.stands.store
    refine ⟨sinks.stands.selected, sinks.follow ?_, sinks.stands.store⟩
    rw [size]
    exact Nat.sub_one_add_one nonempty
  case cardSeen =>
    intro c moves times some_times i below
    have stands : ∃ p, CardStands s.size p (s.run (pressing c times)) := by
      rcases moves with rfl | rfl
      · obtain ⟨p, -, stands⟩ := framed.run_moveForkUp nonempty some_times
        exact ⟨_, stands⟩
      · obtain ⟨p, -, sinks⟩ := framed.run_moveForkDown nonempty some_times
        cases sinks with
        | stands above stands => exact ⟨_, stands⟩
        | live last live => exact absurd (live.symm.trans below) (by simp)
    obtain ⟨p, stands⟩ := stands
    obtain rfl := Fork.below.inj (stands.fork.symm.trans below)
    rw [stands.size]
    exact stands.seen
  case selectionSeen =>
    intro c moves times some_times
    rcases moves with rfl | rfl
    · obtain ⟨p, -, stands⟩ := framed.run_navigateUp nonempty some_times
      exact ⟨_, stands.selected, stands.seen⟩
    · obtain ⟨p, -, sinks⟩ := framed.run_navigateDown nonempty some_times
      exact ⟨_, sinks.stands.selected, sinks.stands.seen⟩

/-- In every state that a run without evictions by request reaches, the card and the selection can be stepped
from where they are to either end of the timeline. -/
theorem stepsAcross_run (c : Config) (actions : List Action) (keeps : ∀ a ∈ actions, a.evicts = false)
    (nonempty : 1 ≤ ((start c).run actions).size) : ((start c).run actions).StepsAcross :=
  ((isFramed_start c).run actions keeps).stepsAcross ((isPartitioned_start c).run actions)
    (Nat.ne_of_gt nonempty)

/-- Three files are read in a window of one row.  A fork is made below the first, and the window goes to the
end. -/
def cardOutOfSight : List Action :=
  [.handle (.command (.resize 1)) 0, .handle (.fileRead (.producer "a") "a" []) 0,
    .handle (.fileRead (.producer "b") "b" []) 0, .handle (.fileRead (.producer "c") "c" []) 0,
    .handle (.command (.forkAt 0)) 0, .handle (.command .scrollToEnd) 0]

theorem stepsAcross_run_cardOutOfSight :
    (∀ a ∈ cardOutOfSight, a.evicts = false) ∧ ((start .standard).run cardOutOfSight).size = 3 ∧
      ((start .standard).run cardOutOfSight).fork = .below 0 ∧
      ((start .standard).run cardOutOfSight).viewport = ⟨2, 1, true, none⟩ ∧
      ((start .standard).run cardOutOfSight).StepsAcross := by
  have keeps : ∀ a ∈ cardOutOfSight, a.evicts = false := by simp [cardOutOfSight, Action.evicts]
  have size : ((start .standard).run cardOutOfSight).size = 3 := by decide +kernel
  exact ⟨keeps, size, by decide +kernel, by decide +kernel,
    stepsAcross_run .standard cardOutOfSight keeps (by rw [size]; decide)⟩

end Session

end Chronicle
