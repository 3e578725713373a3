import Chronicle.Proofs.Store.Recall
import Mathlib.Order.Bounds.Basic

/-!
# What a store keeps in memory

Slots, the list of free slots, the queue of remembered ids and the index of ids, after any run of
operations in which every entry is appended under an id that has not been seen (`Store.frugal_run`).

The invariant is `Store.Tidy`.  Its count says that every slot holds a live entry or is free, so a slot is
added only when all of them are taken, and the number of slots is then the number of live entries
(`Tidy.slots_size_perform`).  Of the ids it says that those of the live entries and those that are remembered
are different from one another and all in the index (`Registered`); this needs no bound on anything.  That
the index holds no other id is `Recalls.known`, which needs that fewer ids are remembered than a slot has
generations: the key of an id that falls out of the queue would otherwise name an entry of a later round,
and `Store.forget` takes the id for a live one.
-/

namespace Chronicle

namespace Store

variable {s : Store} {k : Key} {e : Entry} {p cap : Nat} {id : CorrelationId}

/-! ## Operations -/

/-- What can be asked of a store. -/
inductive Operation where
  | append (id : CorrelationId) (kind : Kind) (status : Status) (now : Instant)
  | evict (k : Key)
  | edit (k : Key) (f : Edit)
  | releaseLease (k : Key)

def perform (s : Store) : Operation → Store
  | .append id kind status now => (s.append id kind status now).2
  | .evict k => (s.evict k).2
  | .edit k f => s.update k f.run
  | .releaseLease k => s.releaseLease k

def run (s : Store) (ops : List Operation) : Store := ops.foldl perform s

/-- An entry is not appended under an id that has been seen. -/
def Admits (s : Store) : Operation → Prop
  | .append id _ _ _ => s.hasSeen id = false
  | _ => True

/-- Each operation of a run is admitted by the store that it meets. -/
def AdmitsAll (s : Store) : List Operation → Prop
  | [] => True
  | op :: ops => s.Admits op ∧ (s.perform op).AdmitsAll ops

instance decidableAdmits (s : Store) : (op : Operation) → Decidable (s.Admits op)
  | .append id _ _ _ => inferInstanceAs (Decidable (s.hasSeen id = false))
  | .evict _ => .isTrue trivial
  | .edit _ _ => .isTrue trivial
  | .releaseLease _ => .isTrue trivial

instance decidableAdmitsAll (s : Store) : (ops : List Operation) → Decidable (s.AdmitsAll ops)
  | [] => .isTrue trivial
  | op :: ops =>
      have := decidableAdmitsAll (s.perform op) ops
      inferInstanceAs (Decidable (s.Admits op ∧ (s.perform op).AdmitsAll ops))

theorem run_concat (s : Store) (ops : List Operation) (op : Operation) :
    s.run (ops ++ [op]) = (s.run ops).perform op := by
  rw [run, List.foldl_append]
  rfl

theorem admitsAll_concat (s : Store) (ops : List Operation) (op : Operation) :
    s.AdmitsAll (ops ++ [op]) ↔ s.AdmitsAll ops ∧ (s.run ops).Admits op := by
  induction ops generalizing s with
  | nil => simp [AdmitsAll, run]
  | cons op' ops ih =>
      simp only [List.cons_append, AdmitsAll, ih, and_assoc]
      rfl

/-! ## Ids -/

/-- The ids of the live entries, in order. -/
def liveIds (s : Store) : List CorrelationId := s.entries.map (·.2.id)

theorem Sound.mem_liveIds (sound : s.Sound) :
    id ∈ s.liveIds ↔ ∃ k e, s.get? k = some e ∧ e.id = id := by
  rw [liveIds, List.mem_map]
  constructor
  · rintro ⟨⟨k, e⟩, mem, same⟩
    exact ⟨k, e, sound.mem_entries.mp mem, same⟩
  · rintro ⟨k, e, found, same⟩
    exact ⟨(k, e), sound.mem_entries.mpr found, same⟩

theorem Sound.length_liveIds (sound : s.Sound) : s.liveIds.length = s.size := by
  rw [liveIds, List.length_map, sound.length_entries]

/-- The ids of the index are those that have been seen. -/
theorem mem_ids_iff : id ∈ s.ids.map (·.1) ↔ s.hasSeen id = true := by
  rw [hasSeen, List.lookup_isSome_iff, List.mem_map]
  refine exists_congr fun ik => and_congr_right fun _ => ?_
  rw [beq_iff_eq, eq_comm]

/-- Ids that are not to be forgotten lead where they led. -/
theorem lookup_foldl_forget_of_not_mem (forgotten : List CorrelationId) (s : Store)
    (kept : id ∉ forgotten) : (forgotten.foldl forget s).ids.lookup id = s.ids.lookup id := by
  induction forgotten generalizing s with
  | nil => rfl
  | cons id₀ forgotten ih =>
      obtain ⟨other, kept⟩ := not_or.mp (fun h => kept (List.mem_cons.mpr h))
      rw [List.foldl_cons, ih _ kept, forget]
      split
      · exact (lookup_filter (fun i => i ≠ id₀) s.ids id).trans (by simp [other])
      · rfl

theorem lookup_without_of_not_mem (s : Store) (k : Key) (p : Nat) (id : CorrelationId)
    {id' : CorrelationId} (kept : id' ∉ (s.retired ++ [id]).rdrop s.retiredCap) :
    (s.without k p id).ids.lookup id' = s.ids.lookup id' :=
  lookup_foldl_forget_of_not_mem _ _ kept

/-- The ids of the live entries and those that are remembered are all different, and all in the index. -/
structure Registered (s : Store) : Prop where
  live : ∀ k e, s.get? k = some e → s.ids.lookup e.id = some k
  remembered : ∀ id ∈ s.retired, s.hasSeen id = true
  gone : ∀ k e, s.get? k = some e → e.id ∉ s.retired
  retired_nodup : s.retired.Nodup
  ids_nodup : (s.ids.map (·.1)).Nodup

section Ids

variable (registered : s.Registered) (sound : s.Sound)
include registered sound

theorem Registered.seen (mem : id ∈ s.liveIds ∨ id ∈ s.retired) : s.hasSeen id = true := by
  rcases mem with live | waits
  · obtain ⟨k, e, found, rfl⟩ := sound.mem_liveIds.mp live
    exact Option.isSome_iff_exists.mpr ⟨k, registered.live k e found⟩
  · exact registered.remembered id waits

theorem Registered.not_mem_retired (live : id ∈ s.liveIds) : id ∉ s.retired := by
  obtain ⟨k, e, found, rfl⟩ := sound.mem_liveIds.mp live
  exact registered.gone k e found

/-- Two live entries with one id would stand under one key. -/
theorem Registered.liveIds_nodup : s.liveIds.Nodup := by
  refine List.pairwise_map.mpr (sound.entries_increasing.imp_of_mem ?_)
  rintro ⟨k, e⟩ ⟨k', e'⟩ mem mem' lt same
  have found := sound.mem_entries.mp mem
  have found' := sound.mem_entries.mp mem'
  have looked := registered.live k e found
  rw [show e.id = e'.id from same, registered.live k' e' found'] at looked
  obtain rfl := Option.some.inj looked
  obtain rfl := Option.some.inj (found.symm.trans found')
  exact absurd lt (Nat.lt_irrefl _)

theorem Registered.nodup_append : (s.liveIds ++ s.retired).Nodup := by
  refine List.nodup_append.mpr ⟨registered.liveIds_nodup sound, registered.retired_nodup, ?_⟩
  rintro id live id' waits rfl
  exact registered.not_mem_retired sound live waits

end Ids

theorem registered_empty (retiredCap : Nat) : (empty retiredCap).Registered where
  live k e found := absurd found (by simp [empty, get?, slot?])
  remembered id mem := absurd mem List.not_mem_nil
  gone k e found := absurd found (by simp [empty, get?, slot?])
  retired_nodup := .nil
  ids_nodup := .nil

/-- A change in place leaves the ids to their keys. -/
theorem exists_id_eq (k' : Key) (f : Edit) (found : (s.update k' f.run).get? k = some e) :
    ∃ e', s.get? k = some e' ∧ e'.id = e.id := by
  obtain ⟨e', was, name⟩ := (s.named_update k' k f e.name).mp ⟨e, found, rfl⟩
  exact ⟨e', was, congrArg Prod.fst name⟩

theorem Registered.edit (registered : s.Registered) (k' : Key) (f : Edit) :
    (s.update k' f.run).Registered where
  live k e found := by
    obtain ⟨e', was, same⟩ := exists_id_eq k' f found
    exact same ▸ registered.live k e' was
  remembered := registered.remembered
  gone k e found := by
    obtain ⟨e', was, same⟩ := exists_id_eq k' f found
    exact same ▸ registered.gone k e' was
  retired_nodup := registered.retired_nodup
  ids_nodup := registered.ids_nodup

theorem Registered.releaseLease (registered : s.Registered) (k' : Key) :
    (s.releaseLease k').Registered where
  live k e found := registered.live k e (by rwa [get?_releaseLease] at found)
  remembered := registered.remembered
  gone k e found := registered.gone k e (by rwa [get?_releaseLease] at found)
  retired_nodup := registered.retired_nodup
  ids_nodup := registered.ids_nodup

theorem Registered.append (registered : s.Registered) (sound : s.Sound)
    (unseen : s.hasSeen id = false) (kind : Kind) (status : Status) (now : Instant) :
    (s.append id kind status now).2.Registered where
  live k e found := by
    rw [lookup_append]
    rw [sound.get?_append] at found
    split at found
    · next new =>
        obtain rfl := Option.some.inj found
        rw [new]
        exact if_pos rfl
    · have looked := registered.live k e found
      have other : e.id ≠ id := by
        rintro rfl
        simp [hasSeen, looked] at unseen
      rw [if_neg other]
      exact looked
  remembered id' mem := by
    rw [retired_append] at mem
    rw [hasSeen, lookup_append]
    split
    · rfl
    · exact registered.remembered id' mem
  gone k e found mem := by
    rw [retired_append] at mem
    rw [sound.get?_append] at found
    split at found
    · obtain rfl := Option.some.inj found
      exact absurd (registered.remembered id mem) (by simp [unseen])
    · exact registered.gone k e found mem
  retired_nodup := by
    rw [retired_append]
    exact registered.retired_nodup
  ids_nodup := by
    rw [ids_append, List.map_cons, List.nodup_cons]
    refine ⟨?_, registered.ids_nodup.sublist (List.filter_sublist.map _)⟩
    simp

section Without

variable (registered : s.Registered) (found : s.get? k = some e)
include registered found

theorem Registered.nodup_retired_append : (s.retired ++ [e.id]).Nodup := by
  rw [← List.concat_eq_append, List.nodup_concat]
  exact ⟨registered.gone k e found, registered.retired_nodup⟩

/-- Of the entries that stay, none has an id that joins the queue or waits in it. -/
theorem Registered.not_mem_retired_append {k' : Key} {e' : Entry} (found' : s.get? k' = some e')
    (there : k' ≠ k) : e'.id ∉ s.retired ++ [e.id] := by
  intro mem
  rcases List.mem_append.mp mem with waits | joins
  · exact registered.gone k' e' found' waits
  · have looked := registered.live k' e' found'
    rw [List.mem_singleton.mp joins, registered.live k e found] at looked
    exact there (Option.some.inj looked).symm

theorem Registered.without (p : Nat) : (s.without k p e.id).Registered where
  live k' e' found' := by
    rw [get?_without found] at found'
    split at found'
    · exact absurd found' (by simp)
    · next there =>
        have out := registered.not_mem_retired_append found found' there
        rw [lookup_without_of_not_mem s k p _ fun dropped => out (List.mem_of_mem_take dropped)]
        exact registered.live k' e' found'
  remembered id mem := by
    rw [retired_without] at mem
    have waits : id ∈ s.retired ++ [e.id] := List.mem_of_mem_drop mem
    have kept : id ∉ (s.retired ++ [e.id]).rdrop s.retiredCap := fun dropped =>
      (mem_rdrop_iff (registered.nodup_retired_append found) waits _).mp dropped mem
    rw [hasSeen, lookup_without_of_not_mem s k p _ kept]
    rcases List.mem_append.mp waits with before | joins
    · exact registered.remembered id before
    · rw [List.mem_singleton.mp joins]
      exact Option.isSome_iff_exists.mpr ⟨k, registered.live k e found⟩
  gone k' e' found' mem := by
    rw [get?_without found] at found'
    split at found'
    · exact absurd found' (by simp)
    · next there =>
        rw [retired_without] at mem
        exact registered.not_mem_retired_append found found' there (List.mem_of_mem_drop mem)
  retired_nodup := by
    rw [retired_without]
    exact (registered.nodup_retired_append found).sublist (List.drop_sublist _ _)
  ids_nodup := registered.ids_nodup.sublist ((s.ids_without_sublist k p e.id).map _)

end Without

/-! ## Slots -/

theorem slots_size_modifySlot (s : Store) (k : Key) (f : Slot → Slot) :
    (s.modifySlot k f).slots.size = s.slots.size :=
  Array.size_modify

theorem slots_size_without (s : Store) (k : Key) (p : Nat) (id : CorrelationId) :
    (s.without k p id).slots.size = s.slots.size := by
  rw [slots_without, Array.size_modify]

/-- A new entry takes the slot that was emptied last; there is a new slot if none is empty. -/
theorem slots_append (s : Store) (id : CorrelationId) (kind : Kind) (status : Status)
    (now : Instant) :
    (s.append id kind status now).2.free = s.free.tail ∧
    (s.append id kind status now).2.slots.size =
      if s.free = [] then s.slots.size + 1 else s.slots.size := by
  show (s.place _).2.free = _ ∧ (s.place _).2.slots.size = _
  unfold place
  cases s.free with
  | nil => exact ⟨rfl, Array.size_push _⟩
  | cons i free => exact ⟨rfl, Array.size_modify⟩

/-- What the operations keep of the slots, the queue and the index. -/
structure Tidy (cap : Nat) (s : Store) : Prop where
  sound : s.Sound
  /-- Every slot holds a live entry or is free. -/
  slots : s.slots.size = s.size + s.free.length
  registered : s.Registered
  retiredCap_eq : s.retiredCap = cap
  retired_le : s.retired.length ≤ cap
  generation_lt : ∀ i g, s.generation? i = some g → g < generationLimit
  recalls : s.retired.length < generationLimit → s.Recalls

theorem tidy_empty (cap : Nat) : (empty cap).Tidy cap where
  sound := .empty cap
  slots := rfl
  registered := registered_empty cap
  retiredCap_eq := rfl
  retired_le := Nat.zero_le _
  generation_lt i g of_slot := absurd of_slot (by simp [generation?, empty])
  recalls _ := recalls_empty cap

section Step

variable (tidy : s.Tidy cap)
include tidy

theorem Tidy.edit (k : Key) (f : Edit) : (s.update k f.run).Tidy cap where
  sound := tidy.sound.edit k f
  slots := (s.slots_size_modifySlot k _).trans tidy.slots
  registered := tidy.registered.edit k f
  retiredCap_eq := tidy.retiredCap_eq
  retired_le := tidy.retired_le
  generation_lt i g of_slot := tidy.generation_lt i g (by rwa [generation?_update] at of_slot)
  recalls few := (tidy.recalls few).edit k f

theorem Tidy.releaseLease (k : Key) : (s.releaseLease k).Tidy cap where
  sound := tidy.sound.releaseLease k
  slots := (s.slots_size_modifySlot k _).trans tidy.slots
  registered := tidy.registered.releaseLease k
  retiredCap_eq := tidy.retiredCap_eq
  retired_le := tidy.retired_le
  generation_lt i g of_slot := tidy.generation_lt i g (by rwa [generation?_releaseLease] at of_slot)
  recalls few := (tidy.recalls few).releaseLease k

theorem Tidy.append (unseen : s.hasSeen id = false) (kind : Kind) (status : Status) (now : Instant) :
    (s.append id kind status now).2.Tidy cap where
  sound := tidy.sound.append id kind status now
  slots := by
    have slots := tidy.slots
    obtain ⟨free, size⟩ := s.slots_append id kind status now
    rw [size, size_append, free, List.length_tail]
    split
    · next none_free =>
        rw [none_free, List.length_nil] at slots ⊢
        omega
    · next some_free =>
        have pos := List.length_pos_iff.mpr some_free
        omega
  registered := tidy.registered.append tidy.sound unseen kind status now
  retiredCap_eq := by
    rw [retiredCap_append]
    exact tidy.retiredCap_eq
  retired_le := by
    rw [retired_append]
    exact tidy.retired_le
  generation_lt i g of_slot := by
    rcases tidy.sound.generation?_append_cases id kind status now of_slot with before | rfl
    · exact tidy.generation_lt i g before
    · decide
  recalls few := by
    rw [retired_append] at few
    exact (tidy.recalls few).append tidy.sound unseen kind status now

theorem Tidy.without (found : s.get? k = some e) (at_p : s.keyAt? p = some k) :
    (s.without k p e.id).Tidy cap where
  sound := tidy.sound.without at_p e.id
  slots := by
    have size := size_without at_p e.id
    rw [slots_size_without, free_without, List.length_cons, tidy.slots]
    omega
  registered := tidy.registered.without found p
  retiredCap_eq := by
    rw [retiredCap_without]
    exact tidy.retiredCap_eq
  retired_le := by
    rw [length_retired_without, tidy.retiredCap_eq]
    exact Nat.min_le_left _ _
  generation_lt i g of_slot := by
    rw [generation?_without] at of_slot
    split at of_slot
    · obtain ⟨g', -, rfl⟩ := Option.map_eq_some_iff.mp of_slot
      exact nextGeneration_lt g'
    · exact tidy.generation_lt i g of_slot
  recalls few := by
    have le := tidy.retired_le
    rw [length_retired_without, tidy.retiredCap_eq] at few
    have fewer : s.retired.length < generationLimit := by omega
    have lt := tidy.generation_lt k.index k.generation (generation?_of_get? found)
    exact (tidy.recalls fewer).without fewer found lt p

theorem Tidy.perform (op : Operation) (admits : s.Admits op) : (s.perform op).Tidy cap := by
  cases op with
  | append id kind status now => exact tidy.append admits kind status now
  | evict k =>
      rcases tidy.sound.evict_cases k with ⟨v, refused⟩ | ⟨e, p, found, -, -, at_p, evicted⟩
      · rw [Store.perform, refused]
        exact tidy
      · rw [Store.perform, evicted]
        exact tidy.without found at_p
  | edit k f => exact tidy.edit k f
  | releaseLease k => exact tidy.releaseLease k

/-- A slot is added only when every slot holds a live entry. -/
theorem Tidy.slots_size_cases (op : Operation) :
    (s.perform op).slots.size = s.slots.size ∨
      (s.perform op).slots.size = s.slots.size + 1 ∧ (s.perform op).size = s.slots.size + 1 := by
  cases op with
  | append id kind status now =>
      rw [Store.perform, (s.slots_append id kind status now).2, size_append, tidy.slots]
      split
      · next none_free =>
          rw [none_free]
          exact .inr ⟨rfl, rfl⟩
      · exact .inl rfl
  | evict k =>
      rcases tidy.sound.evict_cases k with ⟨v, refused⟩ | ⟨e, p, -, -, -, -, evicted⟩
      · rw [Store.perform, refused]
        exact .inl rfl
      · rw [Store.perform, evicted]
        exact .inl (s.slots_size_without k p e.id)
  | edit k f => exact .inl (s.slots_size_modifySlot k _)
  | releaseLease k => exact .inl (s.slots_size_modifySlot k _)

theorem Tidy.slots_size_perform (op : Operation) (admits : s.Admits op) :
    (s.perform op).slots.size = max (s.perform op).size s.slots.size := by
  have slots := (tidy.perform op admits).slots
  rcases tidy.slots_size_cases op with same | ⟨more, full⟩ <;> omega

end Step

/-! ## Runs -/

theorem Tidy.run (tidy : s.Tidy cap) (ops : List Operation) (admits : s.AdmitsAll ops) :
    (s.run ops).Tidy cap := by
  induction ops generalizing s with
  | nil => exact tidy
  | cons op ops ih => exact ih (tidy.perform op admits.1) admits.2

/-- The numbers of live entries that a store has had in the course of a run. -/
def sizes (s : Store) (ops : List Operation) : Set Nat :=
  {n | ∃ before, before <+: ops ∧ (s.run before).size = n}

theorem sizes_nil (s : Store) : s.sizes [] = {s.size} := by
  ext n
  simp [sizes, run, eq_comm]

theorem sizes_concat (s : Store) (ops : List Operation) (op : Operation) :
    s.sizes (ops ++ [op]) = insert (s.run (ops ++ [op])).size (s.sizes ops) := by
  ext n
  simp only [sizes, Set.mem_ofPred_eq, Set.mem_insert_iff, List.prefix_concat_iff, or_and_right,
    exists_or, exists_eq_left]
  rw [eq_comm]

/-- The induction is on the last operation, which adds one number to those that there have been. -/
theorem isGreatest_slots_size (cap : Nat) (ops : List Operation)
    (admits : (empty cap).AdmitsAll ops) :
    IsGreatest ((empty cap).sizes ops) ((empty cap).run ops).slots.size := by
  induction ops using List.reverseRecOn with
  | nil =>
      rw [sizes_nil]
      exact isGreatest_singleton
  | append_singleton ops op ih =>
      obtain ⟨before, admitted⟩ := (admitsAll_concat _ _ _).mp admits
      have tidy := (tidy_empty cap).run ops before
      rw [sizes_concat, run_concat, tidy.slots_size_perform op admitted]
      exact (ih before).insert _

/-- What a store that was made by a run keeps in memory. -/
structure Frugal (cap : Nat) (ops : List Operation) (s : Store) : Prop where
  /-- There are as many slots as entries have ever been live at once. -/
  slots : IsGreatest ((empty cap).sizes ops) s.slots.size
  /-- The free slots are the empty ones, each of them once. -/
  free : ∀ i, i ∈ s.free ↔ s.IsVacant i
  free_nodup : s.free.Nodup
  retired_nodup : s.retired.Nodup
  retired_gone : ∀ id ∈ s.retired, id ∉ s.liveIds
  retired_le : s.retired.length ≤ cap
  ids_nodup : (s.ids.map (·.1)).Nodup
  /-- The ids of the live entries and those that are remembered are in the index, -/
  listed : ∀ id, id ∈ s.liveIds ∨ id ∈ s.retired → id ∈ s.ids.map (·.1)
  /-- and there are no others, if fewer are remembered than a slot has generations.  A cap below that number
  is enough for it. -/
  ids_perm : s.retired.length < generationLimit →
    (s.ids.map (·.1)).Perm (s.liveIds ++ s.retired)
  ids_le : s.retired.length < generationLimit → s.ids.length ≤ s.size + cap

theorem Tidy.mem_ids_iff (tidy : s.Tidy cap) (few : s.retired.length < generationLimit) :
    id ∈ s.ids.map (·.1) ↔ id ∈ s.liveIds ++ s.retired := by
  rw [List.mem_append]
  constructor
  · intro mem
    obtain ⟨k, looked⟩ := Option.isSome_iff_exists.mp (Store.mem_ids_iff.mp mem)
    refine ((tidy.recalls few).known id k looked).imp_left ?_
    rintro ⟨e, found, same⟩
    exact tidy.sound.mem_liveIds.mpr ⟨k, e, found, same⟩
  · intro mem
    exact Store.mem_ids_iff.mpr (tidy.registered.seen tidy.sound mem)

theorem Tidy.ids_perm (tidy : s.Tidy cap) (few : s.retired.length < generationLimit) :
    (s.ids.map (·.1)).Perm (s.liveIds ++ s.retired) := by
  have nodup := tidy.registered.nodup_append tidy.sound
  exact (List.perm_ext_iff_of_nodup tidy.registered.ids_nodup nodup).mpr fun id => tidy.mem_ids_iff few

theorem Tidy.length_ids_le (tidy : s.Tidy cap) (few : s.retired.length < generationLimit) :
    s.ids.length ≤ s.size + cap := by
  have length := (tidy.ids_perm few).length_eq
  rw [List.length_map, List.length_append, tidy.sound.length_liveIds] at length
  exact length.trans_le (Nat.add_le_add_left tidy.retired_le _)

/-- However many entries pass through it, a store keeps no more in memory than what is live and what it is
to remember call for. -/
theorem frugal_run (cap : Nat) (ops : List Operation) (admits : (empty cap).AdmitsAll ops) :
    Frugal cap ops ((empty cap).run ops) := by
  have tidy := (tidy_empty cap).run ops admits
  have registered := tidy.registered
  exact
    { slots := isGreatest_slots_size cap ops admits
      free := tidy.sound.vacant
      free_nodup := tidy.sound.free_nodup
      retired_nodup := registered.retired_nodup
      retired_gone := fun id waits live => registered.not_mem_retired tidy.sound live waits
      retired_le := tidy.retired_le
      ids_nodup := registered.ids_nodup
      listed := fun id mem => mem_ids_iff.mpr (registered.seen tidy.sound mem)
      ids_perm := tidy.ids_perm
      ids_le := tidy.length_ids_le }

/-- With room for one id, `a` is forgotten when `b` is evicted, and it is then given again. -/
def givenAgain : List Operation :=
  [.append (.producer "a") (.thought "") .completed 0, .evict ⟨0, 0⟩,
   .append (.producer "b") (.thought "") .completed 0, .evict ⟨0, 1⟩,
   .append (.producer "a") (.thought "") .running 0]

theorem frugal_run_givenAgain :
    Frugal 1 givenAgain ((empty 1).run givenAgain) ∧
      ((empty 1).run givenAgain).retired = [.producer "b"] ∧
      ((empty 1).run givenAgain).ids = [(.producer "a", ⟨0, 2⟩), (.producer "b", ⟨0, 1⟩)] := by
  have admits : (empty 1).AdmitsAll givenAgain := by decide +kernel
  exact ⟨frugal_run 1 givenAgain admits, by decide +kernel, by decide +kernel⟩

end Store

end Chronicle
