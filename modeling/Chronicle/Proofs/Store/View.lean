import Chronicle.Timeline.Store
import Mathlib.Data.List.Basic

/-!
# The store as a list of entries

`Store.entries` lists the live entries under their keys, in order.  This module says what each
operation on one slot does to that list and to `Store.get?`, so that nothing after it has to look
into a slot again:

* `get?_update`, `entries_update` — an entry is changed in place;
* `get?_releaseLease`, `entries_releaseLease` — a lease goes, the entries stay;
* `retire_eq` — remembering an evicted id touches nothing but the ids.

None of it needs an invariant of the store: a key that is out of date finds nothing before the
operation and nothing after it.
-/

namespace Chronicle

namespace Store

variable {s : Store} {k k' : Key} {e : Entry}

/-! ## Slots -/

theorem get?_eq_some :
    s.get? k = some e ↔ ∃ slot, s.slots[k.index]? = some slot ∧
      slot.generation = k.generation ∧ slot.entry = some e := by
  simp [get?, slot?, Option.bind_eq_some_iff, Option.filter_eq_some_iff, and_assoc]

theorem get?_eq_bind (s : Store) (k : Key) :
    s.get? k = s.slots[k.index]?.bind fun slot =>
      if slot.generation = k.generation then slot.entry else none := by
  cases at_k : s.slots[k.index]? with
  | none => simp [get?, slot?, at_k]
  | some slot => by_cases same : slot.generation = k.generation <;>
      simp [get?, slot?, at_k, Option.filter_some, same]

/-- A change of one slot that leaves its generation alone is seen under the key of the slot, and
under no other key: another generation of the slot finds nothing on either side. -/
theorem slot?_modifySlot (s : Store) (k k' : Key) (f : Slot → Slot)
    (keep : ∀ slot, (f slot).generation = slot.generation) :
    (s.modifySlot k f).slot? k' = if k' = k then (s.slot? k).map f else s.slot? k' := by
  obtain ⟨i, g⟩ := k
  obtain ⟨i', g'⟩ := k'
  by_cases same : i = i'
  · subst same
    simp only [slot?, modifySlot, Array.getElem?_modify, if_pos, Key.mk.injEq, true_and]
    cases s.slots[i]? with
    | none => simp
    | some slot =>
        by_cases at_g : slot.generation = g
        · by_cases same' : g' = g
          · simp [Option.filter_some, keep, at_g, same']
          · have other : ¬ g = g' := fun h => same' h.symm
            simp [Option.filter_some, keep, at_g, same', other]
        · by_cases same' : g' = g
          · simp [Option.filter_some, at_g, same']
          · simp [Option.filter_some, at_g, same']
  · have other : ¬ (i' = i ∧ g' = g) := fun h => same h.1.symm
    simp [slot?, modifySlot, Array.getElem?_modify, same, other]

theorem modifySlot_congr {f g : Slot → Slot}
    (same : ∀ slot, s.slot? k = some slot → f slot = g slot) :
    s.modifySlot k f = s.modifySlot k g := by
  have slots : ∀ i : Nat, (s.modifySlot k f).slots[i]? = (s.modifySlot k g).slots[i]? := by
    intro i
    simp only [modifySlot, Array.getElem?_modify]
    by_cases here : k.index = i
    · subst here
      cases at_k : s.slots[k.index]? with
      | none => rfl
      | some slot =>
          simp only [if_pos, Option.map_some]
          split
          · next held => rw [same slot (by simp [slot?, at_k, Option.filter_some, held])]
          · rfl
    · simp only [if_neg here]
  show { s with slots := (s.modifySlot k f).slots } = { s with slots := (s.modifySlot k g).slots }
  rw [Array.ext_getElem? slots]

theorem modifySlot_id (s : Store) (k : Key) : s.modifySlot k id = s := by
  have slots : ∀ i : Nat, (s.modifySlot k id).slots[i]? = s.slots[i]? := by
    intro i
    simp only [modifySlot, Array.getElem?_modify, id_eq, ite_self]
    split
    · exact Option.map_id'
    · rfl
  show { s with slots := (s.modifySlot k id).slots } = s
  rw [Array.ext_getElem? slots]

/-- The slot at an index holds no entry. -/
def IsVacant (s : Store) (i : Nat) : Prop := ∃ slot, s.slots[i]? = some slot ∧ slot.entry = none

theorem isVacant_modifySlot (s : Store) (k : Key) (f : Slot → Slot)
    (keep : ∀ slot, (f slot).entry = none ↔ slot.entry = none) (i : Nat) :
    (s.modifySlot k f).IsVacant i ↔ s.IsVacant i := by
  simp only [IsVacant, modifySlot, Array.getElem?_modify]
  split
  · cases s.slots[i]? with
    | none => simp
    | some slot => by_cases at_k : slot.generation = k.generation <;> simp [at_k, keep]
  · exact Iff.rfl

/-! ## Looking up after a change in place -/

theorem get?_update (s : Store) (k k' : Key) (f : Entry → Entry) :
    (s.update k f).get? k' = if k' = k then (s.get? k).map f else s.get? k' := by
  unfold get? update
  rw [slot?_modifySlot]
  · split
    · cases s.slot? k <;> rfl
    · rfl
  · intro _; rfl

@[simp]
theorem get?_update_self (s : Store) (k : Key) (f : Entry → Entry) :
    (s.update k f).get? k = (s.get? k).map f := by
  rw [get?_update, if_pos rfl]

theorem get?_update_of_ne (s : Store) (f : Entry → Entry) (other : k' ≠ k) :
    (s.update k f).get? k' = s.get? k' := by
  rw [get?_update, if_neg other]

theorem get?_update_eq_none (s : Store) (f : Entry → Entry) :
    (s.update k f).get? k' = none ↔ s.get? k' = none := by
  rw [get?_update]
  split
  · next same => rw [same, Option.map_eq_none_iff]
  · exact Iff.rfl

@[simp]
theorem get?_releaseLease (s : Store) (k k' : Key) :
    (s.releaseLease k).get? k' = s.get? k' := by
  unfold get? releaseLease
  rw [slot?_modifySlot]
  · split
    · next same => subst same; cases s.slot? k' <;> rfl
    · rfl
  · intro _; rfl

theorem isVacant_update (s : Store) (k : Key) (f : Entry → Entry) (i : Nat) :
    (s.update k f).IsVacant i ↔ s.IsVacant i :=
  s.isVacant_modifySlot k _ (fun _ => Option.map_eq_none_iff) i

theorem isVacant_releaseLease (s : Store) (k : Key) (i : Nat) :
    (s.releaseLease k).IsVacant i ↔ s.IsVacant i :=
  s.isVacant_modifySlot k (fun slot => { slot with lease := none }) (fun _ => Iff.rfl) i

/-! ## The list of entries -/

theorem mem_entries : (k, e) ∈ s.entries ↔ k ∈ s.order ∧ s.get? k = some e := by
  simp only [entries, List.mem_filterMap, Option.map_eq_some_iff, Prod.mk.injEq]
  constructor
  · rintro ⟨k', mem, e', found, rfl, rfl⟩
    exact ⟨mem, found⟩
  · rintro ⟨mem, found⟩
    exact ⟨k, mem, e, found, rfl, rfl⟩

/-- The entry of a key is changed where it stands. -/
theorem entries_update (s : Store) (k : Key) (f : Entry → Entry) :
    (s.update k f).entries =
      s.entries.map fun ke => if ke.1 = k then (ke.1, f ke.2) else ke := by
  simp only [entries, List.map_filterMap]
  refine List.filterMap_congr fun k' _ => ?_
  rw [get?_update]
  split
  · next same => subst same; cases s.get? k' <;> simp
  · next other => cases s.get? k' <;> simp [other]

@[simp]
theorem entries_releaseLease (s : Store) (k : Key) : (s.releaseLease k).entries = s.entries := by
  simp only [entries, get?_releaseLease]
  rfl

theorem entryAt?_of_keyAt? {p : Nat} (at_p : s.keyAt? p = some k) : s.entryAt? p = s.get? k := by
  rw [entryAt?, at_p]
  rfl

/-- A part of the entries that a change in place leaves alone is the same list after it. -/
theorem map_entries_update {α : Type} (s : Store) (k : Key) (f : Entry → Entry) (part : Entry → α)
    (keep : ∀ e, part (f e) = part e) :
    (s.update k f).entries.map (fun ke => (ke.1, part ke.2)) =
      s.entries.map fun ke => (ke.1, part ke.2) := by
  rw [entries_update, List.map_map]
  refine List.map_congr_left fun ke _ => ?_
  by_cases at_k : ke.1 = k <;> simp [at_k, keep]

/-! ## Remembering ids -/

theorem forget_eq (s : Store) (id : CorrelationId) : ∃ ids, s.forget id = { s with ids } := by
  rw [forget]
  split
  · exact ⟨_, rfl⟩
  · exact ⟨s.ids, rfl⟩

theorem foldl_forget_eq (gone : List CorrelationId) (s : Store) :
    ∃ ids, gone.foldl forget s = { s with ids } := by
  induction gone generalizing s with
  | nil => exact ⟨s.ids, rfl⟩
  | cons id gone ih =>
      obtain ⟨ids, first⟩ := s.forget_eq id
      obtain ⟨ids', rest⟩ := ih { s with ids }
      exact ⟨ids', by rw [List.foldl_cons, first, rest]⟩

/-- What an evicted id changes are the ids, and nothing else. -/
theorem retire_eq (s : Store) (id : CorrelationId) :
    ∃ ids retired, s.retire id = { s with ids, retired } := by
  obtain ⟨ids, folded⟩ := foldl_forget_eq
    ((s.retired ++ [id]).take ((s.retired ++ [id]).length - s.retiredCap))
    { s with retired := (s.retired ++ [id]).drop ((s.retired ++ [id]).length - s.retiredCap) }
  exact ⟨ids, _, folded⟩

end Store

end Chronicle
