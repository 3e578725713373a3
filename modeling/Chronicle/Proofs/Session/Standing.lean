import Chronicle.Proofs.Session.DirectEviction
import Chronicle.Proofs.Session.Erasure
import Chronicle.Proofs.Session.HistoryCap
import Chronicle.Proofs.Session.Window

/-!
# Where the window stands

A message may add an entry at the end, and push finished entries out of the history: the oldest ones, but
between them there may be others that are not finished and stay.  The window and the selection are
positions, and each has to be moved by the number of those that have gone before it.

`keepsPlace_run` says that this comes out right in every state (`StaysOn`): the selection stays on its
entry or goes with it, and a window that does not follow the end starts after as many entries as are left
of those above it, unless it would be below the end there.

What a message adds (`Grows`) is beyond the window and the selection.  What the cap takes out is counted
by `Store.survivors`; the positions that are collected while it does are all there is to know about it
(`staysOn_of_removed`).
-/

namespace Chronicle

/-! ## Positions in a list of which some elements go -/

section Positions

variable {α : Type} {l : List α} {stays : α → Bool} {removed : List Nat} {p : Nat} {x : α}

theorem countP_lt_succ (nodup : removed.Nodup) (p : Nat) :
    removed.countP (· < p + 1) = removed.countP (· < p) + if p ∈ removed then 1 else 0 := by
  have apart : removed.countP (· < p + 1) = removed.countP (· < p) + removed.count p := by
    induction removed with
    | nil => rfl
    | cons q removed ih =>
        rw [List.countP_cons, List.countP_cons, List.count_cons, ih (List.nodup_cons.mp nodup).2]
        rcases Nat.lt_trichotomy q p with before | rfl | after
        · simp [before, Nat.ne_of_lt before, Nat.lt_succ_of_lt before]
          omega
        · simp
          omega
        · have other : ¬ q < p + 1 := by omega
          simp [other, Nat.ne_of_gt after, Nat.lt_asymm after]
  rw [apart]
  split
  · next mem => rw [List.count_eq_one_of_mem nodup mem]
  · next absent => rw [List.count_eq_zero_of_not_mem absent]

/-- Of the elements before a position so many are left as have not been removed. -/
theorem countP_take_add (nodup : removed.Nodup)
    (gone : ∀ q x, l[q]? = some x → (q ∈ removed ↔ stays x = false)) (inside : p ≤ l.length) :
    (l.take p).countP stays + removed.countP (· < p) = p := by
  induction p with
  | zero => simp
  | succ p ih =>
      have lt : p < l.length := inside
      have before := ih (Nat.le_of_lt lt)
      have is_gone := gone p l[p] (List.getElem?_eq_getElem lt)
      rw [countP_lt_succ nodup, List.take_succ_eq_append_getElem lt, List.countP_append,
        List.countP_singleton]
      cases left : stays l[p] with
      | true =>
          rw [if_pos rfl, if_neg (by simp [is_gone, left])]
          omega
      | false =>
          rw [if_neg (by simp), if_pos (is_gone.mpr left)]
          omega

/-- An element that stays comes after what is left of those before it. -/
theorem getElem?_filter (at_p : l[p]? = some x) (left : stays x = true) :
    (l.filter stays)[(l.take p).countP stays]? = some x := by
  obtain ⟨lt, rfl⟩ := List.getElem?_eq_some_iff.mp at_p
  have parts : l = l.take p ++ l[p] :: l.drop (p + 1) := by
    rw [List.getElem_cons_drop, List.take_append_drop]
  have filtered : l.filter stays =
      (l.take p).filter stays ++ l[p] :: (l.drop (p + 1)).filter stays := by
    conv => lhs; rw [parts]
    rw [List.filter_append, List.filter_cons_of_pos left]
  rw [filtered, List.countP_eq_length_filter, List.getElem?_append_right (Nat.le_refl _), Nat.sub_self]
  rfl

end Positions

namespace Store

/-- How many of the first `p` entries of a store are live in another one. -/
def survivors (s s' : Store) (p : Nat) : Nat := (s.order.take p).countP s'.contains

end Store

namespace Viewport

variable {v : Viewport} {len : Nat}

theorem onEvicted_frame (v : Viewport) (removed : List Nat) (len : Nat) :
    (v.onEvicted removed len).rows = v.rows ∧ (v.onEvicted removed len).follow = v.follow := by
  rw [onEvicted, settle]
  split <;> exact ⟨rfl, rfl⟩

theorem onAppend_frame (v : Viewport) (len : Nat) :
    (v.onAppend len).selected = v.selected ∧ (v.onAppend len).rows = v.rows ∧
      (v.onAppend len).follow = v.follow := by
  rw [onAppend]
  split <;> exact ⟨rfl, rfl, rfl⟩

theorem offset_onEvicted (stays : v.follow = false) (removed : List Nat) (len : Nat) :
    (v.onEvicted removed len).offset =
      min (v.offset - countBefore removed v.offset) (v.maxOffset len) := by
  rw [onEvicted, settle, if_neg (by simp [stays])]
  rfl

end Viewport

/-- A window that fits has nothing to make up for where nothing has gone. -/
theorem Viewport.Fits.onEvicted_nil {v : Viewport} {len : Nat} (fits : v.Fits len) :
    v.onEvicted [] len = v := by
  have selected : selectedAfter v.selected [] len = v.selected := by
    cases at_p : v.selected with
    | none => rfl
    | some p =>
        have inside := fits.selected_lt p at_p
        have nonempty : (len == 0) = false := beq_eq_false_iff_ne.mpr (by omega)
        simp [selectedAfter, countBefore, nonempty]
  have at_offset : v.offset - countBefore [] v.offset = v.offset := rfl
  rw [Viewport.onEvicted, selected, at_offset, Viewport.settle]
  split
  · next follows => rw [← fits.at_end follows]
  · rw [Nat.min_eq_left fits.offset_le]

namespace Session

variable {s s₁ s' : Session} {k : Key} {p : Nat}

/-- The key of the selected entry. -/
def selectedKey? (s : Session) : Option Key := s.viewport.selected.bind s.store.keyAt?

/-- The window and the selection are on the entries that they were on before. -/
structure StaysOn (s s' : Session) : Prop where
  /-- A key that is good before and after names one entry. -/
  same : ∀ k e e', s.store.get? k = some e → s'.store.get? k = some e' → e'.name = e.name
  /-- The selected entry is selected still, unless it has gone. -/
  selected : s'.selectedKey? = s.selectedKey?.filter s'.store.contains
  /-- Where no entry is selected, no position is. -/
  unselected : s'.selectedKey? = none → s'.viewport.selected = none
  rows : s'.viewport.rows = s.viewport.rows
  follow : s'.viewport.follow = s.viewport.follow
  /-- The window starts after what is left of the entries above it, or shows the last ones. -/
  offset : s.viewport.follow = false → s'.viewport.offset =
    min (s.store.survivors s'.store s.viewport.offset) (s'.viewport.maxOffset s'.size)
  /-- So the first entry in the window is the first one still, unless it has gone or the window would be
  below the end. -/
  first : s.viewport.follow = false →
    s.store.survivors s'.store s.viewport.offset ≤ s'.viewport.maxOffset s'.size →
    ∀ k, s.store.keyAt? s.viewport.offset = some k → s'.store.contains k = true →
      s'.store.keyAt? s'.viewport.offset = some k

/-! ## Entries that go -/

theorem IsFramed.selectedKey?_eq_none_iff (framed : s.IsFramed) :
    s.selectedKey? = none ↔ s.viewport.selected = none := by
  unfold selectedKey?
  cases at_p : s.viewport.selected with
  | none => simp
  | some p =>
      have inside : p < s.store.order.length := framed.fits.selected_lt p at_p
      simp [Store.keyAt?, List.getElem?_eq_getElem inside]

section Removed

variable {removed : List Nat} (framed : s.IsFramed) (sound' : s'.store.Sound)
  (entries : s'.store.entries = s.store.entries.filter fun ke => s'.store.contains ke.1)
  (nodup : removed.Nodup)
  (gone : ∀ q k, s.store.keyAt? q = some k → (q ∈ removed ↔ s'.store.contains k = false))
include framed

theorem order_of_removed (sound' : s'.store.Sound)
    (entries : s'.store.entries = s.store.entries.filter fun ke => s'.store.contains ke.1) :
    s'.store.order = s.store.order.filter s'.store.contains := by
  rw [← sound'.keys_entries, ← framed.sound.keys_entries, List.filter_map, entries]
  rfl

include nodup gone

/-- The selection stays on its entry, or goes with it. -/
theorem selected_of_removed
    (order : s'.store.order = s.store.order.filter s'.store.contains)
    (viewport : s'.viewport = s.viewport.onEvicted removed s'.size) :
    s'.selectedKey? = s.selectedKey?.filter s'.store.contains ∧
      (s'.selectedKey? = none → s'.viewport.selected = none) := by
  have moved : s'.viewport.selected =
      Viewport.selectedAfter s.viewport.selected removed s'.size := by
    rw [viewport]
    exact (s.viewport.onEvicted_settled removed s'.size).2.2
  unfold selectedKey?
  rw [moved]
  cases at_p : s.viewport.selected with
  | none => simp [Viewport.selectedAfter]
  | some p =>
      have inside : p < s.store.order.length := framed.fits.selected_lt p at_p
      have at_key : s.store.keyAt? p = some s.store.order[p] := List.getElem?_eq_getElem inside
      have is_gone := gone p _ at_key
      cases left : s'.store.contains s.store.order[p] with
      | false =>
          have removed_p : p ∈ removed := is_gone.mpr left
          simp [Viewport.selectedAfter, at_key, left, removed_p, Option.filter_some]
      | true =>
          have stays : p ∉ removed := fun mem => by simp [is_gone.mp mem] at left
          have at_p' : s'.store.keyAt? ((s.store.order.take p).countP s'.store.contains) =
              some s.store.order[p] := by
            rw [Store.keyAt?, order]
            exact getElem?_filter at_key left
          have nonempty : s'.size ≠ 0 := by
            have := (List.getElem?_eq_some_iff.mp at_p').1
            show s'.store.order.length ≠ 0
            omega
          have counted := countP_take_add nodup gone (Nat.le_of_lt inside)
          have moved_p : p - Viewport.countBefore removed p =
              (s.store.order.take p).countP s'.store.contains := by
            unfold Viewport.countBefore
            omega
          have after : Viewport.selectedAfter (some p) removed s'.size =
              some ((s.store.order.take p).countP s'.store.contains) := by
            simp [Viewport.selectedAfter, stays, nonempty, moved_p]
          rw [after, Option.bind_some, Option.bind_some, at_key, at_p', Option.filter_some, left]
          simp

include sound' entries

/-- A window that makes up for entries that have gone stays on the others. -/
theorem staysOn_of_removed (viewport : s'.viewport = s.viewport.onEvicted removed s'.size) :
    s.StaysOn s' := by
  have order := order_of_removed framed sound' entries
  obtain ⟨selected, unselected⟩ := selected_of_removed framed nodup gone order viewport
  obtain ⟨rows, follow⟩ := s.viewport.onEvicted_frame removed s'.size
  have inside : s.viewport.offset ≤ s.store.order.length :=
    Nat.le_trans framed.fits.offset_le (Nat.sub_le _ _)
  have counted := countP_take_add nodup gone inside
  have offset : s.viewport.follow = false → s'.viewport.offset =
      min (s.store.survivors s'.store s.viewport.offset) (s'.viewport.maxOffset s'.size) := by
    intro stays
    have left : s.viewport.offset - Viewport.countBefore removed s.viewport.offset =
        s.store.survivors s'.store s.viewport.offset := by
      unfold Viewport.countBefore Store.survivors
      omega
    rw [Viewport.maxOffset, viewport, rows, Viewport.offset_onEvicted stays, left]
    rfl
  refine ⟨?same, selected, unselected, ?rows, ?follow, offset, ?first⟩
  case same =>
    intro k e e' found found'
    have mem : (k, e') ∈ s'.store.entries := sound'.mem_entries.mpr found'
    rw [entries] at mem
    have was := framed.sound.mem_entries.mp (List.mem_filter.mp mem).1
    rw [Option.some.inj (found.symm.trans was)]
  case rows => rw [viewport, rows]
  case follow => rw [viewport, follow]
  case first =>
    intro stays room k at_offset left
    rw [offset stays, Nat.min_eq_left room, Store.keyAt?, order]
    exact getElem?_filter at_offset left

end Removed

/-- A state stays on what it is on. -/
theorem StaysOn.refl (framed : s.IsFramed) : s.StaysOn s := by
  have live : ∀ k ∈ s.store.order, s.store.contains k = true := by
    intro k mem
    obtain ⟨e, found⟩ := (framed.sound.live k).mpr mem
    simp [Store.contains, found]
  refine staysOn_of_removed framed framed.sound ?_ List.nodup_nil ?_ framed.fits.onEvicted_nil.symm
  · refine (List.filter_eq_self.mpr fun ke mem => live ke.1 ?_).symm
    rw [← framed.sound.keys_entries]
    exact List.mem_map_of_mem mem
  · intro q k at_q
    simp [live k (List.mem_of_getElem? at_q)]

/-- The hits are not part of what is stayed on. -/
theorem StaysOn.refreshSearch (stays : s.StaysOn s') : s.StaysOn s'.refreshSearch :=
  ⟨stays.same, stays.selected, stays.unselected, stays.rows, stays.follow, stays.offset, stays.first⟩

/-! ## The history cap -/

/-- A victim is picked with the position that its key stands at. -/
theorem keyAt?_of_mem_victims (sound : s.store.Sound) (mem : (p, k) ∈ s.victims) :
    s.store.keyAt? p = some k := by
  obtain ⟨⟨ke, q⟩, picked, same⟩ := List.mem_map.mp mem
  obtain ⟨rfl, rfl⟩ := Prod.mk.inj same
  have listed := (List.mem_filter.mp (List.mem_of_mem_take picked)).1
  exact (sound.getElem?_entries.mp (List.mem_zipIdx_iff_getElem?.mp listed)).1

/-- Under a live card an entry is left unless it is a victim. -/
theorem IsPartitioned.contains_evictAll (holds : s.IsPartitioned) (live : s.fork = .live) {e : Entry}
    (found : s.store.get? k = some e) :
    (s.evictAll s.victims).2.store.contains k = true ↔ k ∉ s.victims.map (·.2) := by
  obtain ⟨nodup, finished⟩ := holds.victims_finished live
  have left := (holds.evictAll_of_finished live nodup finished).2
  have sound' := sound_evictAll holds.sound s.victims
  rw [Store.contains, Option.isSome_iff_exists]
  constructor
  · rintro ⟨e', found'⟩
    have mem := sound'.mem_entries.mpr found'
    rw [left] at mem
    simpa using (List.mem_filter.mp mem).2
  · intro spared
    refine ⟨e, sound'.mem_entries.mp ?_⟩
    rw [left]
    exact List.mem_filter.mpr ⟨holds.sound.mem_entries.mpr found, by simpa using spared⟩

/-- Under a live card the positions that are collected are those of the entries that have gone. -/
theorem IsPartitioned.mem_evictAll_iff (holds : s.IsPartitioned) (live : s.fork = .live)
    (at_p : s.store.keyAt? p = some k) :
    p ∈ (s.evictAll s.victims).1 ↔ (s.evictAll s.victims).2.store.contains k = false := by
  obtain ⟨nodup, finished⟩ := holds.victims_finished live
  obtain ⟨e, found⟩ := (holds.sound.live k).mpr (List.mem_of_getElem? at_p)
  rw [← Bool.not_eq_true, holds.contains_evictAll live found, not_not,
    (holds.evictAll_of_finished live nodup finished).1]
  constructor
  · intro mem
    obtain ⟨⟨q, k'⟩, picked, rfl⟩ := List.mem_map.mp mem
    obtain rfl := Option.some.inj (at_p.symm.trans (keyAt?_of_mem_victims holds.sound picked))
    exact List.mem_map_of_mem (f := (·.2)) picked
  · intro mem
    obtain ⟨⟨q, k'⟩, picked, rfl⟩ := List.mem_map.mp mem
    obtain rfl := holds.sound.keyAt?_inj at_p (keyAt?_of_mem_victims holds.sound picked)
    exact List.mem_map_of_mem (f := (·.1)) picked

theorem IsPartitioned.staysOn_evictAll (holds : s.IsPartitioned) (framed : s.IsFramed)
    (live : s.fork = .live) :
    s.StaysOn ((s.evictAll s.victims).2.moveWindow fun v len =>
      v.onEvicted (s.evictAll s.victims).1 len) := by
  obtain ⟨nodup, finished⟩ := holds.victims_finished live
  obtain ⟨collected, left⟩ := holds.evictAll_of_finished live nodup finished
  obtain ⟨store, tokens, evicted, frame⟩ := evictAll_frame s s.victims
  have viewport : (s.evictAll s.victims).2.viewport = s.viewport := by rw [frame]
  refine staysOn_of_removed framed (sound_evictAll holds.sound s.victims) ?entries ?nodup
    (fun q k at_q => holds.mem_evictAll_iff live at_q) ?viewport
  case entries =>
    show (s.evictAll s.victims).2.store.entries = _
    rw [left]
    refine List.filter_congr fun ke mem => ?_
    have spared := holds.contains_evictAll live (holds.sound.mem_entries.mp mem)
    exact Bool.eq_iff_iff.mpr (decide_eq_true_iff.trans spared.symm)
  case nodup =>
    rw [collected]
    exact s.victims_positions.1
  case viewport =>
    exact congrArg (fun v : Viewport =>
      v.onEvicted (s.evictAll s.victims).1 (s.evictAll s.victims).2.size) viewport

theorem IsPartitioned.staysOn_enforceHistoryCap (holds : s.IsPartitioned) (framed : s.IsFramed) :
    s.StaysOn s.enforceHistoryCap.2 := by
  rcases enforceHistoryCap_cases s with same | ⟨exceeds, ⟨none, same⟩ | ⟨-, same⟩⟩
  · rw [same]
    exact .refl framed
  · rw [same, (evictAll_counted holds.sound s.victims).2 none]
    exact .refl framed
  · have live : s.fork = .live := by
      have not_forked := (exceedsCap_iff.mp exceeds).2.2
      cases fork : s.fork with
      | live => rfl
      | below i => simp [fork, Fork.isForked] at not_forked
    rw [same]
    exact (holds.staysOn_evictAll framed live).refreshSearch

/-! ## Entries that come -/

/-- Entries may come at the end, and the window moves only if it follows that. -/
structure Grows (s s' : Session) : Prop where
  names : s.store.names <+: s'.store.names
  selected : s'.viewport.selected = s.viewport.selected
  rows : s'.viewport.rows = s.viewport.rows
  follow : s'.viewport.follow = s.viewport.follow
  offset : s.viewport.follow = false → s'.viewport.offset = s.viewport.offset

section Grows

variable (framed : s.IsFramed) (framed₁ : s₁.IsFramed) (grows : s.Grows s₁)
include framed framed₁ grows

theorem Grows.order : s.store.order <+: s₁.store.order := by
  have keys := grows.names.map (·.1)
  unfold Store.names at keys
  rw [List.map_map, List.map_map] at keys
  rw [← framed.sound.keys_entries, ← framed₁.sound.keys_entries]
  exact keys

theorem Grows.keyAt? (inside : p < s.size) : s₁.store.keyAt? p = s.store.keyAt? p := by
  obtain ⟨rest, order⟩ := grows.order framed framed₁
  rw [Store.keyAt?, Store.keyAt?, ← order]
  exact List.getElem?_append_left inside

theorem Grows.survivors (store : Store) (inside : p ≤ s.size) :
    s₁.store.survivors store p = s.store.survivors store p := by
  obtain ⟨rest, order⟩ := grows.order framed framed₁
  rw [Store.survivors, Store.survivors, ← order, List.take_append_of_le_length inside]

theorem Grows.selectedKey? : s₁.selectedKey? = s.selectedKey? := by
  unfold Session.selectedKey?
  rw [grows.selected]
  cases at_p : s.viewport.selected with
  | none => rfl
  | some p => exact grows.keyAt? framed framed₁ (framed.fits.selected_lt p at_p)

theorem Grows.get? {e : Entry} (found : s.store.get? k = some e) :
    ∃ e₁, s₁.store.get? k = some e₁ ∧ e₁.name = e.name := by
  have named : (k, e.name) ∈ s.store.names :=
    List.mem_map.mpr ⟨(k, e), framed.sound.mem_entries.mpr found, rfl⟩
  obtain ⟨⟨k', e₁⟩, mem, same⟩ := List.mem_map.mp (grows.names.subset named)
  obtain ⟨rfl, name⟩ := Prod.mk.inj same
  exact ⟨e₁, framed₁.sound.mem_entries.mp mem, name⟩

/-- What comes at the end is beyond the window and the selection. -/
theorem StaysOn.of_grows (stays : s₁.StaysOn s') : s.StaysOn s' := by
  have inside : s.viewport.offset ≤ s.size :=
    Nat.le_trans framed.fits.offset_le (Nat.sub_le _ _)
  have unmoved : s.viewport.follow = false → s₁.viewport.follow = false ∧
      s₁.store.survivors s'.store s₁.viewport.offset =
        s.store.survivors s'.store s.viewport.offset := by
    intro still
    refine ⟨grows.follow.trans still, ?_⟩
    rw [grows.offset still]
    exact grows.survivors framed framed₁ s'.store inside
  refine ⟨?same, ?selected, stays.unselected, stays.rows.trans grows.rows,
    stays.follow.trans grows.follow, ?offset, ?first⟩
  case same =>
    intro k e e' found found'
    obtain ⟨e₁, found₁, name⟩ := grows.get? framed framed₁ found
    exact (stays.same k e₁ e' found₁ found').trans name
  case selected => rw [stays.selected, grows.selectedKey? framed framed₁]
  case offset =>
    intro still
    obtain ⟨still₁, left⟩ := unmoved still
    rw [stays.offset still₁, left]
  case first =>
    intro still room k at_offset left
    obtain ⟨still₁, same⟩ := unmoved still
    refine stays.first still₁ (same ▸ room) k ?_ left
    rw [grows.offset still]
    have below : s.viewport.offset < s.size := (List.getElem?_eq_some_iff.mp at_offset).1
    exact (grows.keyAt? framed framed₁ below).trans at_offset

end Grows

/-! ## Messages -/

theorem Grows.of_names (names : s'.store.names = s.store.names)
    (viewport : s'.viewport = s.viewport) : s.Grows s' where
  names := names ▸ List.prefix_refl _
  selected := by rw [viewport]
  rows := by rw [viewport]
  follow := by rw [viewport]
  offset _ := by rw [viewport]

/-- Where no entry comes or goes and the window stands still, it stays on its entries. -/
theorem StaysOn.of_names (framed : s.IsFramed) (framed' : s'.IsFramed)
    (names : s'.store.names = s.store.names) (viewport : s'.viewport = s.viewport) : s.StaysOn s' :=
  (StaysOn.refl framed').of_grows framed framed' (.of_names names viewport)

theorem Grows.trans (first : s.Grows s₁) (rest : s₁.Grows s') : s.Grows s' where
  names := first.names.trans rest.names
  selected := rest.selected.trans first.selected
  rows := rest.rows.trans first.rows
  follow := rest.follow.trans first.follow
  offset still := (rest.offset (first.follow.trans still)).trans (first.offset still)

/-- A new entry comes last. -/
theorem grows_withEntry (sound : s.store.Sound) (id : CorrelationId) (kind : Kind) (status : Status)
    (now : Instant) : s.Grows (s.withEntry id kind status now) := by
  have viewport : (s.withEntry id kind status now).viewport =
      s.viewport.onAppend (s.withEntry id kind status now).size := rfl
  have names := Fork.names_markAppended s.fork (s.store.append id kind status now).2
    (s.store.append id kind status now).1
  rw [sound.names_append] at names
  obtain ⟨selected, rows, follow⟩ := s.viewport.onAppend_frame (s.withEntry id kind status now).size
  refine ⟨⟨_, names.symm⟩, ?_, ?_, ?_, fun still => ?_⟩
  · rw [viewport, selected]
  · rw [viewport, rows]
  · rw [viewport, follow]
  · rw [viewport, Viewport.onAppend, if_neg (by simp [still])]

/-- A message that starts an entry adds it, and then the cap is enforced; any other leaves the entries
where they are. -/
theorem IsPartitioned.staysOn_ingest (holds : s.IsPartitioned) (framed : s.IsFramed) (m : Message)
    (now : Instant) : s.StaysOn (s.ingest m now).2 := by
  have framed' : (s.ingest m now).2.IsFramed :=
    preserves_of_step framed (ingest_steps s m now) fun _ _ step framed => framed.step step
  have effect := s.correlator.apply_effect s.store m now
  rw [Session.ingest] at framed' ⊢
  generalize s.correlator.apply s.store m now = r at effect framed' ⊢
  cases effect with
  | refused e stale => exact .of_names framed framed' rfl rfl
  | ignored other => exact .of_names framed framed' rfl rfl
  | appended c id kind status =>
      let closed : Session :=
        { s with correlator := c, store := (s.correlator.closeThoughts s.store now).2 }
      have close : Steps s closed := (closeThoughts_steps s now).tail (.aside rfl rfl rfl)
      have entered : Steps s (closed.withEntry id kind status now) :=
        close.tail (.append closed id kind status now)
      have closed_holds : closed.IsPartitioned := holds.closeThoughts now
      have shuts : s.Grows closed := .of_names (s.correlator.names_closeThoughts s.store now) rfl
      have grows := shuts.trans (grows_withEntry closed_holds.sound id kind status now)
      have holds₁ : (closed.withEntry id kind status now).IsPartitioned :=
        closed_holds.step (.append closed id kind status now)
      have framed₁ : (closed.withEntry id kind status now).IsFramed :=
        preserves_of_step framed entered fun _ _ step framed => framed.step step
      exact (holds₁.staysOn_enforceHistoryCap framed₁).refreshSearch.of_grows framed framed₁ grows
  | updated k f keep live =>
      exact .of_names framed framed' (s.store.names_update k f) rfl
  | confirmed k f keep live =>
      exact .of_names framed framed' (s.store.names_update k f) rfl
  | finished c k f keep live =>
      exact .of_names framed framed' (s.store.names_update k f) rfl
  | ended k f keep live =>
      have names := (Store.names_releaseLease _ k).trans (s.store.names_update k f)
      exact .of_names framed framed' names rfl

theorem IsPartitioned.staysOn_handle (holds : s.IsPartitioned) (framed : s.IsFramed) {m : Message}
    (now : Instant) (free : m.isCommand = false) : s.StaysOn (s.handle m now).2 := by
  cases m with
  | command c => exact absurd free (by simp [Message.isCommand])
  | connectionError reason =>
      have framed' : (s.handle (.connectionError reason) now).2.IsFramed :=
        framed.step (.aside rfl rfl rfl)
      exact .of_names framed framed' rfl rfl
  | connectionRestored =>
      have framed' : (s.handle .connectionRestored now).2.IsFramed :=
        preserves_of_step framed (reconnect_steps s) fun _ _ step framed => framed.step step
      have same : s.reconnect.2.store = s.store ∧ s.reconnect.2.viewport = s.viewport := by
        rw [reconnect]
        split <;> exact ⟨rfl, rfl⟩
      exact .of_names framed framed' (congrArg Store.names same.1) same.2
  | _ => exact holds.staysOn_ingest framed _ now

/-! ## Without a cap -/

/-- What is done is not about the window: it is not scrolled or resized, nothing is selected, looked for or
submitted, and the card stays where it is. -/
def Action.leavesWindow : Action → Bool
  | handle (.command .stopHero) _ => true
  | handle (.command (.draftChar _)) _ => true
  | handle (.command .draftBackspace) _ => true
  | handle (.command .quit) _ => true
  | handle (.command _) _ => false
  | handle _ _ => true
  | subscribe _ => true
  | cancelToken _ => true
  | stopHero => true
  | takeOutbound => true
  | enforceHistoryCap => true
  | _ => false

/-- The window is where it was, under the same cap. -/
def Unmoved (s s' : Session) : Prop :=
  s'.viewport = s.viewport ∧ s'.historyCap = s.historyCap

theorem unmoved_stopHero (s : Session) : s.Unmoved s.stopHero.2 := by
  rcases stopHero_cases s with same | ⟨tokens, id, -, same⟩
  · rw [same]
    exact ⟨rfl, rfl⟩
  · rw [same]
    exact ⟨rfl, rfl⟩

theorem unmoved_subscribe (s : Session) (id : CorrelationId) : s.Unmoved (s.subscribe id).2 := by
  rcases subscribe_cases s id with same | ⟨k, same⟩
  · rw [same]
    exact ⟨rfl, rfl⟩
  · rw [same]
    exact ⟨rfl, rfl⟩

section Pinned

variable (uncapped : s.historyCap = 0) (still : s.viewport.follow = false)
include uncapped still

theorem unmoved_ingest (m : Message) (now : Instant) : s.Unmoved (s.ingest m now).2 := by
  rw [ingest]
  generalize s.correlator.apply s.store m now = r
  obtain ⟨result, correlator, store⟩ := r
  cases result with
  | error e => exact ⟨rfl, rfl⟩
  | ok o =>
      cases o with
      | appended k =>
          let entered : Session := { s with correlator, store := s.fork.markAppended store k }
          have viewport : s.viewport.onAppend entered.size = s.viewport := by
            rw [Viewport.onAppend, if_neg (by simp [still])]
          have kept := enforceHistoryCap_uncapped (s := entered.moveWindow Viewport.onAppend) uncapped
          show s.Unmoved (entered.moveWindow Viewport.onAppend).enforceHistoryCap.2.refreshSearch
          rw [kept]
          exact ⟨viewport, rfl⟩
      | _ => exact ⟨rfl, rfl⟩

theorem unmoved_handle {m : Message} (now : Instant) (leaves : (Action.handle m now).leavesWindow = true) :
    s.Unmoved (s.handle m now).2 := by
  cases m with
  | command c =>
      cases c with
      | stopHero => exact unmoved_stopHero s
      | draftChar c => exact ⟨rfl, rfl⟩
      | draftBackspace => exact ⟨rfl, rfl⟩
      | quit => exact ⟨rfl, rfl⟩
      | _ => exact absurd leaves Bool.false_ne_true
  | connectionError reason => exact ⟨rfl, rfl⟩
  | connectionRestored =>
      show s.Unmoved s.reconnect.2
      rw [reconnect]
      split <;> exact ⟨rfl, rfl⟩
  | _ => exact unmoved_ingest uncapped still _ now

theorem unmoved_perform {a : Action} (leaves : a.leavesWindow = true) : s.Unmoved (s.perform a) := by
  cases a with
  | handle m now => exact unmoved_handle uncapped still now leaves
  | subscribe id => exact unmoved_subscribe s id
  | cancelToken token => exact ⟨rfl, rfl⟩
  | stopHero => exact unmoved_stopHero s
  | takeOutbound => exact ⟨rfl, rfl⟩
  | enforceHistoryCap =>
      rw [perform, enforceHistoryCap_uncapped uncapped]
      exact ⟨rfl, rfl⟩
  | _ => exact absurd leaves Bool.false_ne_true

theorem unmoved_run {later : List Action} (leave : ∀ a ∈ later, a.leavesWindow = true) :
    s.Unmoved (s.run later) := by
  refine run_induct (motive := s.Unmoved) ⟨rfl, rfl⟩ later ?_
  intro s' a mem unmoved
  obtain ⟨viewport, historyCap⟩ := unmoved
  have still' : s'.viewport.follow = false := by rw [viewport, still]
  have next := unmoved_perform (historyCap.trans uncapped) still' (leave a mem)
  exact ⟨next.1.trans viewport, next.2.trans historyCap⟩

end Pinned

/-! ## Every run -/

/-- Messages keep the window and the selection on their entries, and without a cap on the history the
window does not move at all until it is asked to, unless it follows the end. -/
structure KeepsPlace (s : Session) : Prop where
  /-- A position that is selected is that of an entry. -/
  selects : s.selectedKey? = none ↔ s.viewport.selected = none
  message : ∀ m now, m.isCommand = false → s.StaysOn (s.handle m now).2
  unmoved : s.historyCap = 0 → s.viewport.follow = false → ∀ later : List Action,
    (∀ a ∈ later, a.leavesWindow = true) → (s.run later).viewport.offset = s.viewport.offset

theorem keepsPlace_run (c : Config) (actions : List Action) (keeps : ∀ a ∈ actions, a.evicts = false) :
    ((start c).run actions).KeepsPlace := by
  have holds := (isPartitioned_start c).run actions
  have framed := (isFramed_start c).run actions keeps
  generalize (start c).run actions = s at holds framed
  refine ⟨framed.selectedKey?_eq_none_iff, fun m now free => holds.staysOn_handle framed now free, ?_⟩
  intro uncapped still later leave
  rw [(unmoved_run uncapped still leave).1]

/-- A history of three entries in a window of one row: a file, a tool that runs, and another file.  The
tool is gone to. -/
def watchedTool : List Action :=
  [.handle (.command (.resize 1)) 0, .handle (.fileRead (.producer "a") "a" []) 0,
    .handle (.toolStarted (.producer "b") "" "") 0, .handle (.fileRead (.producer "c") "c" []) 0,
    .handle (.command .navigateUp) 0, .handle (.command .navigateUp) 0]

/-- One more file pushes the first one out, and the window goes up by one row with the tool. -/
theorem keepsPlace_run_watchedTool :
    ((start { Config.standard with historyCap := 3 }).run watchedTool).KeepsPlace ∧
      ((start { Config.standard with historyCap := 3 }).run watchedTool).viewport =
        ⟨1, 1, false, some 1⟩ ∧
      (((start { Config.standard with historyCap := 3 }).run watchedTool).handle
        (.fileRead (.producer "d") "d" []) 0).2.viewport = ⟨0, 1, false, some 0⟩ := by
  have keeps : ∀ a ∈ watchedTool, a.evicts = false := by simp [watchedTool, Action.evicts]
  exact ⟨keepsPlace_run _ watchedTool keeps, by decide +kernel, by decide +kernel⟩

end Session

end Chronicle
