import Chronicle.Proofs.Store.View
import Mathlib.Data.List.Nodup

/-!
# The invariant of the store

`Store.Sound` ties the slots, the list of free slots and the order to one another: a key names an
entry exactly while it stands in the order, the sequence numbers grow along the order and stay below
the next one, and the free slots are the empty ones.  Every operation keeps it
(`Sound.update`, `Sound.append`, `Sound.evict`, ...), and under it each operation is an operation on
the list of entries.

Nothing here counts evictions.  The generation of a slot may start again, so that a key of long ago
names another entry; the invariant speaks only of keys that are in the order.
-/

namespace Chronicle

namespace Store

variable {s : Store} {k k' : Key} {e : Entry}

/-- The sequence numbers of the live entries, in order. -/
def sequences (s : Store) : List Nat := s.entries.map (·.2.sequence)

/-- What holds of every store that the operations have made. -/
structure Sound (s : Store) : Prop where
  /-- A key names an entry exactly while it stands in the order. -/
  live : ∀ k, (∃ e, s.get? k = some e) ↔ k ∈ s.order
  increasing : s.sequences.Pairwise (· < ·)
  below : ∀ n ∈ s.sequences, n < s.nextSequence
  /-- The free slots are the empty ones. -/
  vacant : ∀ i, i ∈ s.free ↔ s.IsVacant i
  free_nodup : s.free.Nodup

theorem Sound.empty (retiredCap : Nat) : (Store.empty retiredCap).Sound where
  live k := by simp [Store.empty, get?, slot?]
  increasing := .nil
  below n mem := by simp [sequences, entries, Store.empty] at mem
  vacant i := by simp [Store.empty, IsVacant]
  free_nodup := .nil

/-! ## The list of entries under the invariant -/

section View

variable (sound : s.Sound)
include sound

theorem Sound.mem_order (found : s.get? k = some e) : k ∈ s.order :=
  (sound.live k).mp ⟨e, found⟩

theorem Sound.mem_entries : (k, e) ∈ s.entries ↔ s.get? k = some e :=
  Store.mem_entries.trans ⟨And.right, fun found => ⟨sound.mem_order found, found⟩⟩

/-- Numbers that entries have are below the next one. -/
theorem Sound.sequence_lt_next (found : s.get? k = some e) : e.sequence < s.nextSequence :=
  sound.below e.sequence (List.mem_map.mpr ⟨(k, e), sound.mem_entries.mpr found, rfl⟩)

/-- Every key of the order has an entry, so the list of entries has one element for each key. -/
theorem Sound.entries_eq : s.entries = s.order.map fun k => (k, (s.get? k).getD default) := by
  rw [entries, ← List.filterMap_eq_map]
  refine List.filterMap_congr fun k mem => ?_
  obtain ⟨e, found⟩ := (sound.live k).mpr mem
  simp [found]

@[simp]
theorem Sound.keys_entries : s.entries.map (·.1) = s.order := by
  rw [sound.entries_eq, List.map_map]
  exact List.map_id _

@[simp]
theorem Sound.length_entries : s.entries.length = s.size := by
  rw [← List.length_map, sound.keys_entries, size]

theorem Sound.getElem?_entries {p : Nat} :
    s.entries[p]? = some (k, e) ↔ s.order[p]? = some k ∧ s.get? k = some e := by
  rw [sound.entries_eq, List.getElem?_map, Option.map_eq_some_iff]
  constructor
  · rintro ⟨k', at_p, pair⟩
    obtain ⟨rfl, rfl⟩ := Prod.mk.inj pair
    obtain ⟨e, found⟩ := (sound.live k').mpr (List.mem_of_getElem? at_p)
    exact ⟨at_p, by rw [found]; rfl⟩
  · rintro ⟨at_p, found⟩
    exact ⟨k, at_p, by rw [found]; rfl⟩

theorem Sound.entryAt?_eq (p : Nat) : s.entryAt? p = s.entries[p]?.map (·.2) := by
  rw [sound.entries_eq, List.getElem?_map, entryAt?, keyAt?]
  cases at_p : s.order[p]? with
  | none => rfl
  | some k =>
      obtain ⟨e, found⟩ := (sound.live k).mpr (List.mem_of_getElem? at_p)
      simp [found]

theorem Sound.entries_increasing :
    s.entries.Pairwise fun ke ke' => ke.2.sequence < ke'.2.sequence :=
  List.pairwise_map.mp sound.increasing

/-- No key stands twice in the order: it would name two entries with different numbers. -/
theorem Sound.order_nodup : s.order.Nodup := by
  rw [← sound.keys_entries]
  refine List.pairwise_map.mpr (sound.entries_increasing.imp_of_mem ?_)
  rintro ⟨k, e⟩ ⟨k', e'⟩ mem mem' lt rfl
  have same : e = e' :=
    Option.some.inj ((sound.mem_entries.mp mem).symm.trans (sound.mem_entries.mp mem'))
  exact absurd lt (by simp [same])

end View

/-! ## Changes in place -/

/-- An entry changed in place keeps its number, and the store stays sound. -/
theorem Sound.update (sound : s.Sound) (k : Key) {f : Entry → Entry}
    (keep : ∀ e, (f e).sequence = e.sequence) : (s.update k f).Sound := by
  have same : (s.update k f).sequences = s.sequences := by
    have := congrArg (List.map Prod.snd) (map_entries_update s k f Entry.sequence keep)
    simpa [sequences, Function.comp_def] using this
  refine ⟨fun k' => ?_, same ▸ sound.increasing, same ▸ sound.below, fun i => ?_, sound.free_nodup⟩
  · rw [show (s.update k f).order = s.order from rfl, ← sound.live, get?_update]
    split
    · next at_k => subst at_k; simp
    · exact Iff.rfl
  · rw [isVacant_update]
    exact sound.vacant i

theorem Sound.releaseLease (sound : s.Sound) (k : Key) : (s.releaseLease k).Sound where
  live k' := by rw [get?_releaseLease]; exact sound.live k'
  increasing := by rw [sequences, entries_releaseLease]; exact sound.increasing
  below := by rw [sequences, entries_releaseLease]; exact sound.below
  vacant i := by rw [isVacant_releaseLease]; exact sound.vacant i
  free_nodup := sound.free_nodup

/-! ## Appending -/

theorem place_of_none_free (e : Entry) (none_free : s.free = []) :
    s.place e =
      (⟨s.slots.size, 0⟩, { s with slots := s.slots.push ⟨0, some e, some e.sequence⟩ }) := by
  simp only [place, none_free]

theorem place_of_free (e : Entry) {i : Nat} {free : List Nat} {slot : Slot}
    (at_free : s.free = i :: free) (at_i : s.slots[i]? = some slot) :
    s.place e =
      (⟨i, slot.generation⟩,
        { s with
          free
          slots := s.slots.modify i fun slot =>
            { slot with entry := some e, lease := some e.sequence } }) := by
  simp only [place, at_free, at_i]

/-- A new entry gets a key that named nothing before, and every other key names what it named. -/
theorem Sound.get?_place (sound : s.Sound) (e : Entry) :
    s.get? (s.place e).1 = none ∧
    ∀ k, (s.place e).2.get? k = if k = (s.place e).1 then some e else s.get? k := by
  cases at_free : s.free with
  | nil =>
      rw [place_of_none_free e at_free]
      refine ⟨by simp [get?_eq_bind], fun ⟨i, g⟩ => ?_⟩
      simp only [get?_eq_bind, Array.getElem?_push, Key.mk.injEq]
      by_cases at_end : i = s.slots.size
      · by_cases zero : g = 0 <;> simp [at_end, zero, eq_comm]
      · simp [at_end]
  | cons index free =>
      obtain ⟨slot, at_index, empty⟩ := (sound.vacant index).mp (by simp [at_free])
      rw [place_of_free e at_free at_index]
      refine ⟨by simp [get?_eq_bind, at_index, empty], fun ⟨i, g⟩ => ?_⟩
      simp only [get?_eq_bind, Array.getElem?_modify, Key.mk.injEq]
      by_cases at_i : index = i
      · subst at_i
        by_cases same : slot.generation = g <;> simp [at_index, same, empty, eq_comm]
      · have other : ¬ i = index := fun h => at_i h.symm
        simp [at_i, other]

/-- The slot of a new entry is no longer free, and no other slot changes. -/
theorem Sound.vacant_place (sound : s.Sound) (e : Entry) :
    (∀ i, i ∈ (s.place e).2.free ↔ (s.place e).2.IsVacant i) ∧ (s.place e).2.free.Nodup := by
  cases at_free : s.free with
  | nil =>
      rw [place_of_none_free e at_free]
      refine ⟨fun i => ?_, sound.free_nodup⟩
      rw [sound.vacant]
      simp only [IsVacant, Array.getElem?_push]
      by_cases at_end : i = s.slots.size <;> simp [at_end]
  | cons index free =>
      obtain ⟨slot, at_index, -⟩ := (sound.vacant index).mp (by simp [at_free])
      obtain ⟨absent, nodup⟩ := List.nodup_cons.mp (at_free ▸ sound.free_nodup)
      rw [place_of_free e at_free at_index]
      refine ⟨fun i => ?_, nodup⟩
      have vacant := sound.vacant i
      rw [at_free] at vacant
      simp only [IsVacant, Array.getElem?_modify] at vacant ⊢
      by_cases at_i : index = i
      · subst at_i
        simp [at_index, absent]
      · have other : ¬ i = index := fun h => at_i h.symm
        simpa [at_i, other] using vacant

theorem place_frame (s : Store) (e : Entry) :
    (s.place e).2.order = s.order ∧ (s.place e).2.ids = s.ids ∧
      (s.place e).2.retired = s.retired ∧ (s.place e).2.retiredCap = s.retiredCap ∧
      (s.place e).2.nextSequence = s.nextSequence := by
  rw [place]
  split <;> exact ⟨rfl, rfl, rfl, rfl, rfl⟩

section Append

variable (id : CorrelationId) (kind : Kind) (status : Status) (now : Instant)

theorem order_append (s : Store) :
    (s.append id kind status now).2.order = s.order ++ [(s.append id kind status now).1] :=
  congrArg (· ++ _) (s.place_frame _).1

theorem size_append (s : Store) : (s.append id kind status now).2.size = s.size + 1 := by
  rw [size, order_append, List.length_append, List.length_singleton, size]

theorem nextSequence_append (s : Store) :
    (s.append id kind status now).2.nextSequence = s.nextSequence + 1 :=
  congrArg (· + 1) (s.place_frame _).2.2.2.2

theorem ids_append (s : Store) :
    (s.append id kind status now).2.ids =
      (id, (s.append id kind status now).1) :: s.ids.filter (·.1 ≠ id) :=
  congrArg (fun ids => (id, _) :: List.filter _ ids) (s.place_frame _).2.1

theorem retired_append (s : Store) :
    (s.append id kind status now).2.retired = s.retired :=
  (s.place_frame (s.fresh id kind status now)).2.2.1

theorem retiredCap_append (s : Store) :
    (s.append id kind status now).2.retiredCap = s.retiredCap :=
  (s.place_frame (s.fresh id kind status now)).2.2.2.1

theorem Sound.get?_append (sound : s.Sound) (k : Key) :
    (s.append id kind status now).2.get? k =
      if k = (s.append id kind status now).1 then some (s.fresh id kind status now)
      else s.get? k :=
  (sound.get?_place _).2 k

theorem Sound.append_not_mem (sound : s.Sound) : (s.append id kind status now).1 ∉ s.order := by
  intro mem
  obtain ⟨e, found⟩ := (sound.live _).mpr mem
  exact Option.some_ne_none e (found.symm.trans (sound.get?_place _).1)

/-- The entries that were there stay. -/
theorem Sound.get?_append_of_some (sound : s.Sound) (found : s.get? k = some e) :
    (s.append id kind status now).2.get? k = some e := by
  have other : k ≠ (s.append id kind status now).1 := by
    rintro rfl
    exact sound.append_not_mem id kind status now (sound.mem_order found)
  rw [sound.get?_append, if_neg other]
  exact found

/-- The new entry stands at the end of the list. -/
theorem Sound.entries_append (sound : s.Sound) :
    (s.append id kind status now).2.entries =
      s.entries ++ [((s.append id kind status now).1, s.fresh id kind status now)] := by
  rw [entries, order_append, List.filterMap_append]
  congr 1
  · refine List.filterMap_congr fun k mem => ?_
    have other : k ≠ (s.append id kind status now).1 :=
      fun same => sound.append_not_mem id kind status now (same ▸ mem)
    rw [sound.get?_append, if_neg other]
  · simp [sound.get?_append]

theorem Sound.append (sound : s.Sound) : (s.append id kind status now).2.Sound := by
  have seqs : (s.append id kind status now).2.sequences = s.sequences ++ [s.nextSequence] := by
    simp [sequences, sound.entries_append, fresh]
  refine ⟨fun k => ?_, ?_, ?_, (sound.vacant_place _).1, (sound.vacant_place _).2⟩
  · rw [order_append, List.mem_append, List.mem_singleton, ← sound.live, sound.get?_append]
    by_cases new : k = (s.append id kind status now).1 <;> simp [new]
  · rw [seqs, List.pairwise_append]
    refine ⟨sound.increasing, List.pairwise_singleton _ _, fun n mem n' last => ?_⟩
    rw [List.mem_singleton.mp last]
    exact sound.below n mem
  · intro n mem
    rw [nextSequence_append]
    rw [seqs, List.mem_append, List.mem_singleton] at mem
    rcases mem with old | rfl
    · exact Nat.lt_succ_of_lt (sound.below n old)
    · exact Nat.lt_succ_self _

end Append

end Store

end Chronicle
