import Chronicle.Proofs.Search
import Chronicle.Proofs.Session.Partition
import Chronicle.Proofs.Viewport

/-!
# Evicting by request

When the history cap takes entries out, the window, the selection and the hits are brought along.  An
eviction by request takes its entry out and leaves them as they are, although every later entry moves up
by one place.

`viewsKept_evict_iff_run` says when that goes well (`ViewsKept`): the window fits one entry fewer as it
stands, nothing is selected from the entry on, and the entry is not among the hits.  What the cap does
beside would always be enough (`viewsKept_brought_run`).
-/

namespace Chronicle

namespace Store

variable {s : Store} {k k' : Key} {e : Entry} {p q : Nat}

/-- A key stands at one position. -/
theorem Sound.keyAt?_inj (sound : s.Sound) (at_p : s.keyAt? p = some k) (at_q : s.keyAt? q = some k) :
    p = q := by
  have searched := sound.positionOf?_eq_some.mpr at_p
  exact Option.some.inj (searched.symm.trans (sound.positionOf?_eq_some.mpr at_q))

/-- Entries after the one that is gone have moved up. -/
theorem keyAt?_without (s : Store) (k : Key) (p : Nat) (id : CorrelationId) (q : Nat) :
    (s.without k p id).keyAt? q = if q < p then s.keyAt? q else s.keyAt? (q + 1) := by
  rw [keyAt?, order_without, List.getElem?_eraseIdx]
  rfl

theorem contains_without (found : s.get? k = some e) (p : Nat) (id : CorrelationId) (k' : Key) :
    (s.without k p id).contains k' = true ↔ k' ≠ k ∧ s.contains k' = true := by
  rw [contains, contains, get?_without found]
  by_cases same : k' = k <;> simp [same]

end Store

namespace Viewport

/-- A window that makes up for entries that are gone is not below the end, and at the end if it follows
that. -/
theorem onEvicted_settled (v : Viewport) (removed : List Nat) (len : Nat) :
    (v.onEvicted removed len).offset ≤ (v.onEvicted removed len).maxOffset len ∧
      ((v.onEvicted removed len).follow = true →
        (v.onEvicted removed len).offset = (v.onEvicted removed len).maxOffset len) ∧
      (v.onEvicted removed len).selected = selectedAfter v.selected removed len := by
  rw [onEvicted, settle]
  split
  · exact ⟨Nat.le_refl _, fun _ => rfl, rfl⟩
  · next stays => exact ⟨Nat.min_le_right _ _, fun follows => absurd follows stays, rfl⟩

theorem selectedAfter_self (p len : Nat) : selectedAfter (some p) [p] len = none := by
  simp [selectedAfter]

/-- A selection before the entry that goes stays, and one after it moves up. -/
theorem selectedAfter_of_ne {p q len : Nat} (other : q ≠ p) (nonempty : len ≠ 0) :
    selectedAfter (some q) [p] len = some (if p < q then q - 1 else q) := by
  have stays : ([p].contains q || len == 0) = false := by simp [other, nonempty]
  rw [selectedAfter, Option.bind_some, stays, countBefore, List.countP_singleton]
  by_cases before : p < q <;> simp [before]

end Viewport

namespace Session

variable {s : Session} {k : Key} {p : Nat}

/-- The window, the selection and the hits of `s'` go with its entries, once the entry of a key has been
taken out of `s`. -/
structure ViewsKept (s : Session) (k : Key) (s' : Session) : Prop where
  offset_le : s'.viewport.offset ≤ s'.viewport.maxOffset s'.size
  at_end : s'.viewport.follow = true → s'.viewport.offset = s'.viewport.maxOffset s'.size
  /-- What was selected is still, unless it is the entry that is gone. -/
  selected : ∀ q k', s.viewport.selected = some q → s.store.keyAt? q = some k' →
    if k' = k then s'.viewport.selected = none
    else ∃ q', s'.viewport.selected = some q' ∧ s'.store.keyAt? q' = some k'
  hits : ∀ k' ∈ s'.search.hits, s'.store.contains k' = true

/-- An eviction that succeeds takes the entry out and does nothing else. -/
theorem evict_ok (sound : s.store.Sound) {e : Entry} (evicted : (s.evict k).1 = .ok e) :
    ∃ p, s.store.get? k = some e ∧ s.store.keyAt? p = some k ∧
      (s.evict k).2 = s.without k p e.id := by
  rcases evict_cases sound k with ⟨v, refused⟩ | ⟨e', p, -, found, -, -, at_p, taken⟩
  · rw [refused] at evicted
    exact absurd evicted (by simp)
  · rw [taken] at evicted ⊢
    obtain rfl := Except.ok.inj evicted
    exact ⟨p, found, at_p, rfl⟩

/-- A selection that stays where it is stays on its entry exactly if that stands before the one that is
gone. -/
theorem selected_without_iff (sound : s.store.Sound) (at_p : s.store.keyAt? p = some k)
    (id : CorrelationId) :
    (∀ q k', s.viewport.selected = some q → s.store.keyAt? q = some k' →
      if k' = k then s.viewport.selected = none
      else ∃ q', s.viewport.selected = some q' ∧ (s.without k p id).store.keyAt? q' = some k') ↔
    ∀ q, s.viewport.selected = some q → q < s.size → q < p := by
  have left (q : Nat) : (s.without k p id).store.keyAt? q =
      if q < p then s.store.keyAt? q else s.store.keyAt? (q + 1) := s.store.keyAt?_without k p id q
  constructor
  · intro kept q selected inside
    obtain ⟨k', at_q⟩ : ∃ k', s.store.keyAt? q = some k' :=
      ⟨_, List.getElem?_eq_getElem inside⟩
    have same := kept q k' selected at_q
    split at same
    · exact absurd (selected.symm.trans same) (by simp)
    · obtain ⟨q', selected', at_q'⟩ := same
      obtain rfl := Option.some.inj (selected.symm.trans selected')
      rw [left] at at_q'
      split at at_q'
      · assumption
      · -- after the gap every key has moved up, so this one would stand in two places
        have := sound.keyAt?_inj at_q at_q'
        omega
  · intro before q k' selected at_q
    have inside : q < s.size := (List.getElem?_eq_some_iff.mp at_q).1
    have lt := before q selected inside
    rw [if_neg]
    · exact ⟨q, selected, by rw [left, if_pos lt, at_q]⟩
    · rintro rfl
      have := sound.keyAt?_inj at_p at_q
      omega

/-! ## When that goes well -/

/-- The window, the selection and the hits can stay as they are when the entry of a key goes. -/
structure Spares (s : Session) (k : Key) : Prop where
  offset_le : s.viewport.offset ≤ s.viewport.maxOffset (s.size - 1)
  at_end : s.viewport.follow = true → s.viewport.offset = s.viewport.maxOffset (s.size - 1)
  /-- An entry that is selected stands before the one that goes. -/
  before : ∀ p q, s.store.keyAt? p = some k → s.viewport.selected = some q → q < s.size → q < p
  absent : k ∉ s.search.hits
  live : ∀ k' ∈ s.search.hits, s.store.contains k' = true

theorem viewsKept_evict_iff_run (c : Config) (actions : List Action) (k : Key) (e : Entry)
    (evicted : (((start c).run actions).evict k).1 = .ok e) :
    ((start c).run actions).ViewsKept k (((start c).run actions).evict k).2 ↔
      ((start c).run actions).Spares k := by
  have sound := ((isPartitioned_start c).run actions).sound
  generalize (start c).run actions = s at sound evicted
  obtain ⟨p, found, at_p, taken⟩ := evict_ok sound evicted
  have size : (s.without k p e.id).size = s.size - 1 := by
    have := size_without at_p e.id
    omega
  have selected := selected_without_iff sound at_p e.id
  have live := s.store.contains_without found p e.id
  rw [taken]
  constructor
  · intro kept
    refine ⟨size ▸ kept.offset_le, size ▸ kept.at_end, ?_, ?_, ?_⟩
    · intro p' q at_p'
      obtain rfl := sound.keyAt?_inj at_p at_p'
      exact selected.mp kept.selected q
    · intro mem
      exact ((live k).mp (kept.hits k mem)).1 rfl
    · intro k' mem
      exact ((live k').mp (kept.hits k' mem)).2
  · intro spares
    refine ⟨size.symm ▸ spares.offset_le, size.symm ▸ spares.at_end, ?_, ?_⟩
    · exact selected.mpr fun q => spares.before p q at_p
    · intro k' mem
      exact (live k').mpr ⟨fun same => spares.absent (same ▸ mem), spares.live k' mem⟩

/-! ## What the history cap does beside -/

/-- A selection that is brought along stays on its entry, unless that is the one that is gone. -/
theorem selected_onEvicted (sound : s.store.Sound) (at_p : s.store.keyAt? p = some k)
    (id : CorrelationId) {q : Nat} {k' : Key} (selected : s.viewport.selected = some q)
    (at_q : s.store.keyAt? q = some k') :
    if k' = k then (s.viewport.onEvicted [p] (s.without k p id).size).selected = none
    else ∃ q', (s.viewport.onEvicted [p] (s.without k p id).size).selected = some q' ∧
      (s.without k p id).store.keyAt? q' = some k' := by
  have size := size_without at_p id
  have inside_p : p < s.size := (List.getElem?_eq_some_iff.mp at_p).1
  have inside_q : q < s.size := (List.getElem?_eq_some_iff.mp at_q).1
  have stays := (s.viewport.onEvicted_settled [p] (s.without k p id).size).2.2
  rw [selected] at stays
  by_cases same : q = p
  · subst same
    obtain rfl := Option.some.inj (at_p.symm.trans at_q)
    rw [if_pos rfl, stays]
    exact Viewport.selectedAfter_self q _
  · have other : k' ≠ k := fun same_key => same (sound.keyAt?_inj at_q (same_key ▸ at_p))
    rw [if_neg other, stays]
    refine ⟨_, Viewport.selectedAfter_of_ne same (by omega), ?_⟩
    show (s.store.without k p id).keyAt? _ = _
    rw [Store.keyAt?_without]
    split
    · next after =>
        rw [if_neg (by omega), Nat.sub_add_cancel (by omega)]
        exact at_q
    · next before =>
        rw [if_pos (by omega)]
        exact at_q

/-- Had the window, the selection and the hits been brought along, they would always be in order. -/
theorem viewsKept_brought_run (c : Config) (actions : List Action) (k : Key) (e : Entry) (p : Nat)
    (evicted : (((start c).run actions).evict k).1 = .ok e)
    (at_p : ((start c).run actions).store.keyAt? p = some k) :
    ((start c).run actions).ViewsKept k
      ((((start c).run actions).evict k).2.moveWindow fun v len =>
        v.onEvicted [p] len).refreshSearch := by
  have sound := ((isPartitioned_start c).run actions).sound
  generalize (start c).run actions = s at sound evicted at_p
  obtain ⟨p', -, at_p', taken⟩ := evict_ok sound evicted
  obtain rfl := sound.keyAt?_inj at_p at_p'
  have sound' : (s.without k p e.id).store.Sound := sound.without at_p e.id
  rw [taken]
  obtain ⟨offset_le, at_end, -⟩ := s.viewport.onEvicted_settled [p] (s.without k p e.id).size
  refine ⟨offset_le, at_end, ?_, ?_⟩
  · intro q k' selected at_q
    exact selected_onEvicted sound at_p e.id selected at_q
  · intro k' mem
    exact (Search.fresh_refresh s.search (s.without k p e.id).store).contains sound' mem

/-- A file is read; that takes no time. -/
def readFile (path : String) : Action := .handle (.fileRead (.producer path) path []) 0

theorem viewsKept_evict_readFile :
    ((start .standard).run [readFile "a"]).ViewsKept ⟨0, 0⟩
      (((start .standard).run [readFile "a"]).evict ⟨0, 0⟩).2 := by
  have evicted : (((start .standard).run [readFile "a"]).evict ⟨0, 0⟩).1 =
      .ok ⟨.producer "a", 0, .fileRead "a" [], .completed, some 0, some 0, some 0, false⟩ := by
    decide +kernel
  refine (viewsKept_evict_iff_run .standard [readFile "a"] ⟨0, 0⟩ _ evicted).mpr ?_
  refine ⟨by decide, fun _ => by decide, fun p q _ selected => ?_, by decide, by decide⟩
  exact absurd (show none = some q from selected) (by simp)

/-- Three files are read in a window of one row, and the second is looked for. -/
def searchedFiles : List Action :=
  [.handle (.command (.resize 1)) 0, readFile "a", readFile "b", readFile "c",
    .handle (.command (.search "read b")) 0, .handle (.command .scrollToEnd) 0]

/-- The entry that is selected and found is taken out: the window stands below the end, and another entry
is selected. -/
theorem not_viewsKept_searchedFiles :
    (((start .standard).run searchedFiles).evict ⟨1, 0⟩).1.isOk = true ∧
      ((start .standard).run searchedFiles).viewport.selected = some 1 ∧
      ¬ ((start .standard).run searchedFiles).ViewsKept ⟨1, 0⟩
        (((start .standard).run searchedFiles).evict ⟨1, 0⟩).2 := by
  refine ⟨by decide +kernel, by decide +kernel, fun kept => ?_⟩
  exact absurd kept.offset_le (by decide +kernel)

end Session

end Chronicle
