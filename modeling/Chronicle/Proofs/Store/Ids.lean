import Chronicle.Proofs.Store.Flags
import Mathlib.Data.List.DropRight

/-!
# The index of ids and the generations of slots

The two parts of the store that the list of entries does not show.  An id is looked up in
`Store.ids`; evicting forgets the ids that fall out of the queue of those remembered
(`lookup_retire`).  The generation of a slot is the one new keys of the slot carry; evicting raises
it, and nothing else does (`generation?_without`).
-/

namespace Chronicle

/-- Filtering a list by its keys takes away what is found under those that go, and nothing else. -/
theorem lookup_filter {α β : Type} [DecidableEq α] (q : α → Bool) (l : List (α × β)) (a : α) :
    (l.filter fun ab => q ab.1).lookup a = if q a then l.lookup a else none := by
  induction l with
  | nil => simp
  | cons ab l ih =>
      obtain ⟨a', b⟩ := ab
      by_cases same : a = a'
      · subst same
        by_cases keep : q a <;> simp [keep, ih]
      · have other : (a == a') = false := by simp [same]
        by_cases keep : q a' <;> simp [keep, List.lookup_cons, other, ih]

namespace Store

variable {s : Store} {k k' : Key} {e : Entry} {p : Nat} {id id' : CorrelationId}

/-! ## Looking up ids -/

theorem keyOf?_eq_some :
    s.keyOf? id = some k ↔ s.ids.lookup id = some k ∧ ∃ e, s.get? k = some e := by
  simp [keyOf?, Option.filter_eq_some_iff, contains, Option.isSome_iff_exists]

theorem keyOf?_eq_none :
    s.keyOf? id = none ↔ ∀ k, s.ids.lookup id = some k → s.get? k = none := by
  simp [keyOf?, Option.filter_eq_none_iff, contains]

/-- A change in place makes no difference to which entry an id names. -/
theorem keyOf?_update (s : Store) (k : Key) (f : Entry → Entry) (id : CorrelationId) :
    (s.update k f).keyOf? id = s.keyOf? id := by
  have contains : (s.update k f).contains = s.contains := by
    funext k'
    rw [Store.contains, Store.contains, get?_update]
    split
    · next same => rw [same, Option.isSome_map]
    · rfl
  show (s.ids.lookup id).filter (s.update k f).contains = _
  rw [contains]
  rfl

theorem lookup_append (s : Store) (id : CorrelationId) (kind : Kind) (status : Status)
    (now : Instant) (id' : CorrelationId) :
    (s.append id kind status now).2.ids.lookup id' =
      if id' = id then some (s.append id kind status now).1 else s.ids.lookup id' := by
  rw [ids_append, List.lookup_cons]
  by_cases same : id' = id
  · simp [same]
  · have other : (id' == id) = false := by simp [same]
    rw [other, lookup_filter (fun i => i ≠ id)]
    simp [same]

/-! ## Forgetting ids -/

/-- Ids that name no live entry are dropped from the index, and no other id is touched. -/
theorem lookup_foldl_forget (gone : List CorrelationId) (s : Store)
    (dead : ∀ id ∈ gone, s.keyOf? id = none) (id : CorrelationId) :
    (gone.foldl forget s).ids.lookup id = if id ∈ gone then none else s.ids.lookup id := by
  induction gone generalizing s with
  | nil => simp
  | cons id₀ gone ih =>
      have first : s.forget id₀ = { s with ids := s.ids.filter fun ik => ik.1 ≠ id₀ } := by
        rw [forget, dead id₀ List.mem_cons_self]
        rfl
      have found : ∀ id, (s.forget id₀).ids.lookup id =
          if id ≠ id₀ then s.ids.lookup id else none := by
        intro id
        rw [first]
        exact (lookup_filter (fun i => i ≠ id₀) s.ids id).trans (by simp)
      have slots : ∀ k, (s.forget id₀).get? k = s.get? k := by
        intro k
        rw [first]
        rfl
      rw [List.foldl_cons, ih]
      · rw [found]
        by_cases same : id = id₀ <;> simp [same]
      · intro id mem
        rw [keyOf?_eq_none]
        intro k looked
        rw [found] at looked
        split at looked
        · rw [slots]
          exact keyOf?_eq_none.mp (dead id (List.mem_cons_of_mem _ mem)) k looked
        · exact absurd looked (by simp)

theorem retired_retire (s : Store) (id : CorrelationId) :
    (s.retire id).retired = (s.retired ++ [id]).rtake s.retiredCap := by
  obtain ⟨ids, folded⟩ := foldl_forget_eq
    ((s.retired ++ [id]).take ((s.retired ++ [id]).length - s.retiredCap))
    { s with retired := (s.retired ++ [id]).drop ((s.retired ++ [id]).length - s.retiredCap) }
  exact congrArg Store.retired folded

/-- Of the ids that name no live entry, those not remembered any longer are forgotten. -/
theorem lookup_retire (dead : ∀ id' ∈ s.retired ++ [id], s.keyOf? id' = none)
    (id' : CorrelationId) :
    (s.retire id).ids.lookup id' =
      if id' ∈ (s.retired ++ [id]).rdrop s.retiredCap then none else s.ids.lookup id' :=
  lookup_foldl_forget _
    { s with retired := (s.retired ++ [id]).drop ((s.retired ++ [id]).length - s.retiredCap) }
    (fun id' mem => dead id' (List.mem_of_mem_take mem)) id'

theorem get?_retire (s : Store) (id : CorrelationId) (k : Key) :
    (s.retire id).get? k = s.get? k := by
  obtain ⟨ids, retired, left⟩ := s.retire_eq id
  rw [left]
  rfl

theorem retiredCap_retire (s : Store) (id : CorrelationId) :
    (s.retire id).retiredCap = s.retiredCap := by
  obtain ⟨ids, retired, left⟩ := s.retire_eq id
  rw [left]

theorem retired_without (s : Store) (k : Key) (p : Nat) (id : CorrelationId) :
    (s.without k p id).retired = (s.retired ++ [id]).rtake s.retiredCap :=
  retired_retire _ id

theorem retiredCap_without (s : Store) (k : Key) (p : Nat) (id : CorrelationId) :
    (s.without k p id).retiredCap = s.retiredCap :=
  retiredCap_retire _ id

theorem lookup_without
    (dead : ∀ id' ∈ s.retired ++ [id], ∀ k', s.ids.lookup id' = some k' →
      (s.without k p id).get? k' = none) (id' : CorrelationId) :
    (s.without k p id).ids.lookup id' =
      if id' ∈ (s.retired ++ [id]).rdrop s.retiredCap then none else s.ids.lookup id' := by
  unfold Store.without at dead ⊢
  refine lookup_retire (fun id' mem => keyOf?_eq_none.mpr fun k' known => ?_) id'
  rw [← get?_retire _ id]
  exact dead id' mem k' known

/-- The last `n` of a queue that has grown by one are found among the last `n` before. -/
theorem rtake_rtake_append {α : Type} (queue : List α) (a : α) (n : Nat) :
    (queue.rtake n ++ [a]).rtake n = (queue ++ [a]).rtake n := by
  simp only [List.rtake_eq_reverse_take_reverse, List.reverse_append, List.reverse_reverse,
    List.reverse_singleton, List.singleton_append]
  cases n with
  | zero => simp
  | succ n => simp [List.take_take]

/-- Each element of a queue without repetitions is dropped or kept, not both. -/
theorem mem_rdrop_iff {α : Type} {queue : List α} (nodup : queue.Nodup) {a : α} (mem : a ∈ queue)
    (n : Nat) : a ∈ queue.rdrop n ↔ a ∉ queue.rtake n := by
  rw [← List.take_append_drop (queue.length - n) queue] at nodup mem
  constructor
  · intro dropped kept
    exact (List.nodup_append.mp nodup).2.2 a dropped a kept rfl
  · intro not_kept
    exact (List.mem_append.mp mem).resolve_right not_kept

/-! ## Generations -/

/-- The generation of a slot. -/
def generation? (s : Store) (i : Nat) : Option Nat := s.slots[i]?.map (·.generation)

theorem generation?_of_get? (found : s.get? k = some e) :
    s.generation? k.index = some k.generation := by
  obtain ⟨slot, at_k, of_gen, -⟩ := get?_eq_some.mp found
  simp [generation?, at_k, of_gen]

theorem generation?_modifySlot (s : Store) (k : Key) (f : Slot → Slot)
    (keep : ∀ slot, (f slot).generation = slot.generation) (i : Nat) :
    (s.modifySlot k f).generation? i = s.generation? i := by
  simp only [generation?, modifySlot, Array.getElem?_modify]
  split
  · cases s.slots[i]? with
    | none => rfl
    | some slot => by_cases at_k : slot.generation = k.generation <;> simp [at_k, keep]
  · rfl

theorem generation?_update (s : Store) (k : Key) (f : Entry → Entry) (i : Nat) :
    (s.update k f).generation? i = s.generation? i :=
  s.generation?_modifySlot k (fun slot => { slot with entry := slot.entry.map f }) (fun _ => rfl) i

theorem generation?_releaseLease (s : Store) (k : Key) (i : Nat) :
    (s.releaseLease k).generation? i = s.generation? i :=
  s.generation?_modifySlot k (fun slot => { slot with lease := none }) (fun _ => rfl) i

/-- The key of a new entry is of the generation that its slot has, zero for a new slot, and no slot
changes its generation. -/
theorem Sound.generation?_place (sound : s.Sound) (e : Entry) :
    (s.generation? (s.place e).1.index).getD 0 = (s.place e).1.generation ∧
    ∀ i, (s.place e).2.generation? i =
      if i = (s.place e).1.index then some (s.place e).1.generation else s.generation? i := by
  cases at_free : s.free with
  | nil =>
      rw [place_of_none_free e at_free]
      refine ⟨by simp [generation?], fun i => ?_⟩
      simp only [generation?, Array.getElem?_push]
      by_cases at_end : i = s.slots.size <;> simp [at_end]
  | cons index free =>
      obtain ⟨slot, at_index, -⟩ := (sound.vacant index).mp (by simp [at_free])
      rw [place_of_free e at_free at_index]
      refine ⟨by simp [generation?, at_index], fun i => ?_⟩
      simp only [generation?, Array.getElem?_modify]
      by_cases same : index = i
      · subst same
        simp [at_index]
      · have other : ¬ i = index := fun h => same h.symm
        simp [same, other]

section Append

variable (sound : s.Sound) (id : CorrelationId) (kind : Kind) (status : Status) (now : Instant)
include sound

theorem Sound.generation?_append_key :
    (s.append id kind status now).2.generation? (s.append id kind status now).1.index =
      some (s.append id kind status now).1.generation :=
  ((sound.generation?_place (s.fresh id kind status now)).2 _).trans (if_pos rfl)

theorem Sound.generation_append {g : Nat}
    (of_slot : s.generation? (s.append id kind status now).1.index = some g) :
    (s.append id kind status now).1.generation = g := by
  have carried := (sound.generation?_place (s.fresh id kind status now)).1
  exact carried.symm.trans (congrArg (·.getD 0) of_slot)

/-- A slot that was there keeps its generation. -/
theorem Sound.generation?_append {i g : Nat} (of_slot : s.generation? i = some g) :
    (s.append id kind status now).2.generation? i = some g := by
  refine ((sound.generation?_place (s.fresh id kind status now)).2 i).trans ?_
  split
  · next same =>
      subst same
      exact congrArg some (sound.generation_append id kind status now of_slot)
  · exact of_slot

/-- The one slot that may be new is in its first generation. -/
theorem Sound.generation?_append_cases {i g : Nat}
    (of_slot : (s.append id kind status now).2.generation? i = some g) :
    s.generation? i = some g ∨ g = 0 := by
  have after := of_slot.symm.trans ((sound.generation?_place (s.fresh id kind status now)).2 i)
  split at after
  · next same =>
      cases before : s.generation? i with
      | none =>
          have carried := (sound.generation?_place (s.fresh id kind status now)).1
          rw [← same, before] at carried
          exact .inr ((Option.some.inj after).trans carried.symm)
      | some g' =>
          rw [sound.generation?_append id kind status now before] at of_slot
          exact .inl of_slot
  · exact .inl after.symm

end Append

/-- Evicting moves the slot on to the next generation. -/
theorem generation?_without (s : Store) (k : Key) (p : Nat) (id : CorrelationId) (i : Nat) :
    (s.without k p id).generation? i =
      if i = k.index then (s.generation? i).map nextGeneration else s.generation? i := by
  simp only [generation?, slots_without, Array.getElem?_modify, eq_comm]
  split <;> simp [Function.comp_def]

end Store

end Chronicle
