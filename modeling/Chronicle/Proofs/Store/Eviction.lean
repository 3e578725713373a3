import Chronicle.Proofs.Store.Position
import Mathlib.Data.List.InsertIdx

/-!
# Evicting an entry

An eviction is refused and changes nothing, or it takes one finished entry out of the list
(`Sound.evict_cases`).  What it leaves is `Store.without`; its list of entries is the old one without
the entry's position, and every other key names what it named (`Sound.entries_without`,
`get?_without`).
-/

namespace Chronicle

namespace Store

variable {s : Store} {k k' : Key} {e : Entry} {p : Nat}

/-- What an eviction leaves: the key at a position is gone, its slot is free again, and the id of its
entry is remembered. -/
def without (s : Store) (k : Key) (p : Nat) (id : CorrelationId) : Store :=
  ({ s with order := s.order.eraseIdx p }.vacate k).retire id

theorem without_eq (s : Store) (k : Key) (p : Nat) (id : CorrelationId) :
    ∃ ids retired, s.without k p id =
      { { s with order := s.order.eraseIdx p }.vacate k with ids, retired } :=
  retire_eq _ id

theorem order_without (s : Store) (k : Key) (p : Nat) (id : CorrelationId) :
    (s.without k p id).order = s.order.eraseIdx p := by
  obtain ⟨ids, retired, left⟩ := s.without_eq k p id
  rw [left]; rfl

theorem free_without (s : Store) (k : Key) (p : Nat) (id : CorrelationId) :
    (s.without k p id).free = k.index :: s.free := by
  obtain ⟨ids, retired, left⟩ := s.without_eq k p id
  rw [left]; rfl

theorem nextSequence_without (s : Store) (k : Key) (p : Nat) (id : CorrelationId) :
    (s.without k p id).nextSequence = s.nextSequence := by
  obtain ⟨ids, retired, left⟩ := s.without_eq k p id
  rw [left]; rfl

theorem slots_without (s : Store) (k : Key) (p : Nat) (id : CorrelationId) :
    (s.without k p id).slots = s.slots.modify k.index fun slot =>
      { generation := nextGeneration slot.generation, entry := none, lease := none } := by
  obtain ⟨ids, retired, left⟩ := s.without_eq k p id
  rw [left]; rfl

/-- The evicted key finds nothing, and no other key is touched: an older or a newer generation of the
slot finds nothing on either side. -/
theorem get?_without (found : s.get? k = some e) (p : Nat) (id : CorrelationId) (k' : Key) :
    (s.without k p id).get? k' = if k' = k then none else s.get? k' := by
  obtain ⟨slot, at_k, of_gen, -⟩ := get?_eq_some.mp found
  obtain ⟨i, g⟩ := k
  obtain ⟨i', g'⟩ := k'
  simp only at at_k of_gen
  simp only [get?_eq_bind, slots_without, Array.getElem?_modify, Key.mk.injEq]
  by_cases same : i = i'
  · subst same
    by_cases of_gen' : slot.generation = g'
    · simp [at_k, ← of_gen, of_gen']
    · simp [at_k, of_gen', ← of_gen]
  · have other : ¬ i' = i := fun h => same h.symm
    simp [same, other]

theorem isVacant_without (found : s.get? k = some e) (p : Nat) (id : CorrelationId) (i : Nat) :
    (s.without k p id).IsVacant i ↔ i = k.index ∨ s.IsVacant i := by
  obtain ⟨slot, at_k, -, -⟩ := get?_eq_some.mp found
  simp only [IsVacant, slots_without, Array.getElem?_modify]
  by_cases same : k.index = i
  · subst same
    simp [at_k]
  · have other : ¬ i = k.index := fun h => same h.symm
    simp [same, other]

theorem size_without (at_p : s.keyAt? p = some k) (id : CorrelationId) :
    (s.without k p id).size + 1 = s.size := by
  have lt : p < s.order.length := (List.getElem?_eq_some_iff.mp at_p).1
  rw [size, order_without, List.length_eraseIdx_add_one lt, size]

section Without

variable (sound : s.Sound) (at_p : s.keyAt? p = some k)
include sound at_p

theorem Sound.eraseIdx_order : s.order.eraseIdx p = s.order.filter (· != k) := by
  obtain ⟨lt, rfl⟩ := List.getElem?_eq_some_iff.mp at_p
  rw [← List.erase_eq_eraseIdx_of_idxOf (sound.order_nodup.idxOf_getElem p lt),
    sound.order_nodup.erase_eq_filter]

theorem Sound.mem_eraseIdx_order : k' ∈ s.order.eraseIdx p ↔ k' ∈ s.order ∧ k' ≠ k := by
  rw [sound.eraseIdx_order at_p, List.mem_filter, bne_iff_ne]

theorem Sound.entries_without (id : CorrelationId) :
    (s.without k p id).entries = s.entries.eraseIdx p := by
  obtain ⟨e, found⟩ := (sound.live k).mpr (List.mem_of_getElem? at_p)
  rw [entries, order_without, sound.entries_eq, List.eraseIdx_map, ← List.filterMap_eq_map]
  refine List.filterMap_congr fun k' mem => ?_
  obtain ⟨mem, other⟩ := (sound.mem_eraseIdx_order at_p).mp mem
  obtain ⟨e', found'⟩ := (sound.live k').mpr mem
  simp [get?_without found, other, found']

theorem Sound.sequences_without (id : CorrelationId) :
    (s.without k p id).sequences = s.sequences.eraseIdx p := by
  rw [sequences, sound.entries_without at_p, sequences, List.eraseIdx_map]

theorem Sound.without (id : CorrelationId) : (s.without k p id).Sound := by
  obtain ⟨e, found⟩ := (sound.live k).mpr (List.mem_of_getElem? at_p)
  refine ⟨fun k' => ?_, ?_, fun n mem => ?_, fun i => ?_, ?_⟩
  · rw [order_without, sound.mem_eraseIdx_order at_p, ← sound.live, get?_without found]
    by_cases same : k' = k <;> simp [same]
  · rw [sound.sequences_without at_p]
    exact sound.increasing.eraseIdx p
  · rw [sound.sequences_without at_p] at mem
    rw [nextSequence_without]
    exact sound.below n (List.mem_of_mem_eraseIdx mem)
  · rw [free_without, List.mem_cons, isVacant_without found, sound.vacant]
  · rw [free_without, List.nodup_cons]
    refine ⟨fun free => ?_, sound.free_nodup⟩
    obtain ⟨slot, at_k, -, full⟩ := get?_eq_some.mp found
    obtain ⟨slot', at_k', empty⟩ := (sound.vacant _).mp free
    obtain rfl := Option.some.inj (at_k.symm.trans at_k')
    exact Option.some_ne_none e (full.symm.trans empty)

end Without

/-! ## What an eviction does -/

/-- A finished entry that no fork discards is taken out. -/
theorem Sound.evict_of_finished (sound : s.Sound) (found : s.get? k = some e)
    (finished : e.status.isFinished = true) (kept : e.discarded = false) :
    ∃ p, s.keyAt? p = some k ∧ s.evict k = (.ok e, s.without k p e.id) := by
  obtain ⟨p, at_p⟩ := List.getElem?_of_mem (sound.mem_order found)
  have searched := sound.positionOf?_eq_some.mpr at_p
  exact ⟨p, at_p, by simp [evict, found, finished, kept, searched, Store.without]⟩

/-- An eviction is refused and changes nothing, or takes one finished entry out. -/
theorem Sound.evict_cases (sound : s.Sound) (k : Key) :
    (∃ v, s.evict k = (.error v, s)) ∨
    ∃ e p, s.get? k = some e ∧ e.status.isFinished = true ∧ e.discarded = false ∧
      s.keyAt? p = some k ∧ s.evict k = (.ok e, s.without k p e.id) := by
  cases found : s.get? k with
  | none => exact .inl ⟨.missing k, by simp [evict, found]⟩
  | some e =>
      cases finished : e.status.isFinished with
      | false => exact .inl ⟨.active k, by simp [evict, found, finished]⟩
      | true =>
          cases kept : e.discarded with
          | true => exact .inl ⟨.discarded k, by simp [evict, found, finished, kept]⟩
          | false =>
              obtain ⟨p, at_p, evicted⟩ := sound.evict_of_finished found finished kept
              exact .inr ⟨e, p, rfl, finished, kept, at_p, evicted⟩

theorem Sound.evict (sound : s.Sound) (k : Key) : (s.evict k).2.Sound := by
  rcases sound.evict_cases k with ⟨v, refused⟩ | ⟨e, p, -, -, -, at_p, evicted⟩
  · rw [refused]; exact sound
  · rw [evicted]; exact sound.without at_p e.id

end Store

end Chronicle
