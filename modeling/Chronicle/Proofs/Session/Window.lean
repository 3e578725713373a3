import Chronicle.Proofs.Session.Moves
import Chronicle.Snapshot

/-!
# The window over a session

The window of a session fits its timeline (`Viewport.Fits`) whatever is done, as long as no entry is
evicted by request: `fits_run`.  So a window that follows has nothing below it, the selection is an
entry, and as many entries are shown as there are rows, or all of them.

An eviction by request is left out because it takes an entry away and does not move the window; the
history cap does both.
-/

namespace Chronicle

namespace Session

variable {s s' : Session}

/-- The store is sound, and the window fits it. -/
structure IsFramed (s : Session) : Prop where
  sound : s.store.Sound
  fits : s.viewport.Fits s.size

theorem isFramed_start (c : Config) : (start c).IsFramed where
  sound := .empty c.retiredIds
  fits := .ofRows c.rows

/-- The window makes up for the entries that the cap has pushed out. -/
theorem IsFramed.enforceHistoryCap (holds : s.IsFramed) : s.enforceHistoryCap.2.IsFramed := by
  obtain ⟨sublist, size⟩ := evictAll_removed holds.sound s.victims
  obtain ⟨store, tokens, evicted, all⟩ := evictAll_frame s s.victims
  have sound := sound_evictAll holds.sound s.victims
  rcases enforceHistoryCap_cases s with same | ⟨-, ⟨none, same⟩ | ⟨-, same⟩⟩
  · rw [same]
    exact holds
  · rw [same]
    refine ⟨sound, ?_⟩
    rw [none, List.length_nil, Nat.add_zero] at size
    show (s.evictAll s.victims).2.viewport.Fits (s.evictAll s.victims).2.size
    rw [size, all]
    exact holds.fits
  · rw [same]
    refine ⟨sound, ?_⟩
    obtain ⟨nodup, inside⟩ := s.victims_positions
    rw [holds.sound.length_entries] at inside
    have fits := holds.fits.onEvicted (nodup.sublist sublist)
      fun p mem => inside p (sublist.subset mem)
    have left : s.size - (s.evictAll s.victims).1.length = (s.evictAll s.victims).2.size := by
      omega
    have same_viewport : (s.evictAll s.victims).2.viewport = s.viewport := by rw [all]
    rw [left, ← same_viewport] at fits
    exact fits

theorem IsFramed.step (holds : s.IsFramed) (step : Step s s') : s'.IsFramed := by
  cases step with
  | aside store fork viewport =>
      refine ⟨store ▸ holds.sound, ?_⟩
      rw [viewport, size, store]
      exact holds.fits
  | window f keeps => exact ⟨holds.sound, keeps _ _ holds.fits⟩
  | edit k f keep => exact ⟨holds.sound.edit k f, holds.fits⟩
  | releaseLease k => exact ⟨holds.sound.releaseLease k, holds.fits⟩
  | append id kind status now =>
      refine ⟨(holds.sound.append id kind status now).markAppended s.fork _, ?_⟩
      have grown : (s.withEntry id kind status now).size = s.size + 1 :=
        (s.fork.size_markAppended _ _).trans (s.store.size_append id kind status now)
      have fits := holds.fits.onAppend
      rw [← grown] at fits
      exact fits
  | trim => exact holds.enforceHistoryCap

theorem IsFramed.move (holds : s.IsFramed) (move : Move s s') : s'.IsFramed := by
  cases move with
  | step step => exact holds.step step
  | turn f inside =>
      refine ⟨holds.sound.partition f, ?_⟩
      show s.viewport.Fits (f.partition s.store).size
      rw [Fork.size_partition]
      exact holds.fits

theorem IsFramed.run (holds : s.IsFramed) (actions : List Action)
    (keeps : ∀ a ∈ actions, a.evicts = false) : (s.run actions).IsFramed := by
  refine run_induct holds actions fun s a mem holds => ?_
  refine perform_preserves holds a (fun _ _ move holds => holds.move move) ?_
  rintro k rfl
  exact absurd (keeps _ mem) (by simp [Action.evicts])

/-- In every state that a run without evictions by request reaches, the window fits the timeline. -/
theorem fits_run (c : Config) (actions : List Action) (keeps : ∀ a ∈ actions, a.evicts = false) :
    ((start c).run actions).viewport.Fits ((start c).run actions).size ∧
    (((start c).run actions).viewport.follow = true →
      ((start c).run actions).viewportView.activityBelow = false) ∧
    ((start c).run actions).visible.toList.length =
      min ((start c).run actions).viewport.rows ((start c).run actions).size ∧
    ∀ p ∈ ((start c).run actions).visible.toList, p < ((start c).run actions).size := by
  have fits := ((isFramed_start c).run actions keeps).fits
  generalize (start c).run actions = s at fits
  refine ⟨fits, fun follows => fits.hasMoreBelow follows, ?_, fun p mem => ?_⟩
  · rw [Span.toList, List.length_map, List.length_range]
    exact fits.length_visible
  · obtain ⟨q, at_q, rfl⟩ := List.mem_map.mp mem
    have stop_le : s.visible.stop ≤ s.size := Nat.min_le_right _ _
    have := List.mem_range.mp at_q
    omega

/-- Two tools in a window of one row, of which the first is gone to. -/
def navigation : List Action :=
  [.handle (.toolStarted (.producer "a") "" "") 0, .handle (.command (.resize 1)) 0,
    .handle (.toolStarted (.producer "b") "" "") 0, .handle (.command .navigateUp) 0,
    .handle (.command .navigateUp) 0]

theorem fits_run_navigation :
    ((start .standard).run navigation).viewport.Fits ((start .standard).run navigation).size ∧
      ((start .standard).run navigation).size = 2 ∧
      ((start .standard).run navigation).viewport = ⟨0, 1, false, some 0⟩ := by
  have keeps : ∀ a ∈ navigation, a.evicts = false := by simp [navigation, Action.evicts]
  exact ⟨(fits_run .standard navigation keeps).1, rfl, rfl⟩

end Session

end Chronicle
