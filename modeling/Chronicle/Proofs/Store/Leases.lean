import Chronicle.Proofs.Store.Flags

/-!
# Leases

The right to stream into an entry is kept in the entry's slot and named by the slot and the entry's number.
`Leased` says whose it is: a right that is granted belongs to a live entry, and to a tool as long as that
runs.  A slot that is used again grants the right of its new entry, which has another number, so the right
of an entry that has gone is never granted again.
-/

namespace Chronicle

/-- The right to stream into an entry under a key. -/
def Key.lease (k : Key) (e : Entry) : Lease := ⟨k.index, e.sequence⟩

namespace Store

variable {s : Store} {k : Key} {e : Entry} {p : Nat}

/-! ## What the operations do to the rights -/

theorem isGranted_eq (s : Store) (l : Lease) :
    s.isGranted l = (s.slots[l.index]?.any fun slot => slot.lease == some l.serial) := by
  rw [isGranted]
  cases s.slots[l.index]? <;> rfl

theorem isGranted_update (s : Store) (k : Key) (f : Entry → Entry) (l : Lease) :
    (s.update k f).isGranted l = s.isGranted l := by
  simp only [isGranted_eq, update, modifySlot, Array.getElem?_modify]
  split
  · cases s.slots[l.index]? with
    | none => rfl
    | some slot => by_cases at_k : slot.generation = k.generation <;> simp [at_k]
  · rfl

theorem isGranted_releaseLease (found : s.get? k = some e) (l : Lease) :
    (s.releaseLease k).isGranted l = (l.index ≠ k.index && s.isGranted l) := by
  obtain ⟨slot, at_k, of_gen, -⟩ := get?_eq_some.mp found
  simp only [isGranted_eq, releaseLease, modifySlot, Array.getElem?_modify]
  by_cases same : l.index = k.index
  · rw [same]
    simp [at_k, of_gen]
  · have other : ¬ k.index = l.index := fun h => same h.symm
    simp [same, other]

theorem isGranted_without (found : s.get? k = some e) (p : Nat) (id : CorrelationId) (l : Lease) :
    (s.without k p id).isGranted l = (l.index ≠ k.index && s.isGranted l) := by
  obtain ⟨slot, at_k, -, -⟩ := get?_eq_some.mp found
  simp only [isGranted_eq, slots_without, Array.getElem?_modify]
  by_cases same : l.index = k.index
  · rw [same]
    simp [at_k]
  · have other : ¬ k.index = l.index := fun h => same h.symm
    simp [same, other]

/-- The slot of a new entry grants the right of that entry, and no slot changes beside it. -/
theorem Sound.isGranted_place (sound : s.Sound) (e : Entry) (l : Lease) :
    (s.place e).2.isGranted l =
      if l.index = (s.place e).1.index then e.sequence == l.serial else s.isGranted l := by
  cases at_free : s.free with
  | nil =>
      rw [place_of_none_free e at_free]
      simp only [isGranted_eq, Array.getElem?_push]
      by_cases at_end : l.index = s.slots.size <;> simp [at_end]
  | cons index free =>
      obtain ⟨slot, at_index, -⟩ := (sound.vacant index).mp (by simp [at_free])
      rw [place_of_free e at_free at_index]
      simp only [isGranted_eq, Array.getElem?_modify]
      by_cases same : index = l.index
      · subst same
        simp [at_index]
      · simp [same, Ne.symm same]

theorem Sound.isGranted_append (sound : s.Sound) (id : CorrelationId) (kind : Kind) (status : Status)
    (now : Instant) (l : Lease) :
    (s.append id kind status now).2.isGranted l =
      if l.index = (s.append id kind status now).1.index then s.nextSequence == l.serial
      else s.isGranted l :=
  sound.isGranted_place (s.fresh id kind status now) l

/-! ## Whose the rights are -/

/-- Two live entries are not in one slot. -/
theorem eq_of_index_eq {k' : Key} {e' : Entry} (found : s.get? k = some e)
    (found' : s.get? k' = some e') (same : k.index = k'.index) : k = k' := by
  obtain ⟨slot, at_k, of_gen, -⟩ := get?_eq_some.mp found
  obtain ⟨slot', at_k', of_gen', -⟩ := get?_eq_some.mp found'
  rw [same] at at_k
  obtain rfl := Option.some.inj (at_k.symm.trans at_k')
  obtain ⟨i, g⟩ := k
  obtain ⟨i', g'⟩ := k'
  simp_all

/-- A right that is granted is that of a live entry, and a tool has it as long as it runs. -/
structure Leased (s : Store) : Prop where
  owner : ∀ l, s.isGranted l = true → ∃ k e, s.get? k = some e ∧ k.lease e = l
  tool : ∀ k e, s.get? k = some e → e.kind.isToolUse = true → s.isGranted (k.lease e) = e.isRunning

theorem leased_empty (retiredCap : Nat) : (empty retiredCap).Leased where
  owner l granted := by simp [isGranted, empty] at granted
  tool k e found := by simp [empty, get?, slot?] at found

/-- A change in place leaves the rights as they are, if it neither starts nor ends a tool. -/
theorem Leased.edit (leased : s.Leased) (k : Key) (f : Edit)
    (keep : ∀ e, s.get? k = some e → (f.run e).kind.isToolUse = true →
      e.kind.isToolUse = true ∧ (f.run e).isRunning = e.isRunning) :
    (s.update k f.run).Leased where
  owner l granted := by
    rw [isGranted_update] at granted
    obtain ⟨k', e, found, rfl⟩ := leased.owner l granted
    obtain ⟨e', found', name⟩ := (s.named_update k k' f e.name).mpr ⟨e, found, rfl⟩
    have sequence : e'.sequence = e.sequence := congrArg Prod.snd name
    exact ⟨k', e', found', by rw [Key.lease, sequence]; rfl⟩
  tool k' e' found' tool := by
    rw [isGranted_update]
    rw [get?_update] at found'
    split at found'
    · next same =>
        subst same
        obtain ⟨e, found, rfl⟩ := Option.map_eq_some_iff.mp found'
        obtain ⟨was_tool, runs⟩ := keep e found tool
        rw [Key.lease, f.sequence_run, runs]
        exact leased.tool k' e found was_tool
    · exact leased.tool k' e' found' tool

/-- A tool that ends loses its right. -/
theorem Leased.end (leased : s.Leased) (found : s.get? k = some e) (f : Edit)
    (ended : (f.run e).isRunning = false) : ((s.update k f.run).releaseLease k).Leased := by
  have found_end : (s.update k f.run).get? k = some (f.run e) := by
    rw [get?_update_self, found]
    rfl
  refine ⟨fun l granted => ?_, fun k' e' found' tool => ?_⟩
  · rw [isGranted_releaseLease found_end, isGranted_update, Bool.and_eq_true] at granted
    obtain ⟨k', e', found', rfl⟩ := leased.owner l granted.2
    have other : k' ≠ k := by
      rintro rfl
      simp [Key.lease] at granted
    exact ⟨k', e', by rw [get?_releaseLease, get?_update_of_ne s _ other]; exact found', rfl⟩
  · rw [isGranted_releaseLease found_end, isGranted_update]
    rw [get?_releaseLease] at found'
    by_cases same : k' = k
    · subst same
      obtain rfl := Option.some.inj (found'.symm.trans found_end)
      simp [Key.lease, ended]
    · rw [get?_update_of_ne s _ same] at found'
      have other : k'.index ≠ k.index := fun index => same (eq_of_index_eq found' found index)
      rw [leased.tool k' e' found' tool |>.symm]
      simp [Key.lease, other]

theorem Leased.append (leased : s.Leased) (sound : s.Sound) (id : CorrelationId) (kind : Kind)
    (status : Status) (now : Instant) (runs : kind.isToolUse = true → status = .running) :
    (s.append id kind status now).2.Leased := by
  have new : (s.append id kind status now).2.get? (s.append id kind status now).1 =
      some (s.fresh id kind status now) := by
    rw [sound.get?_append, if_pos rfl]
  refine ⟨fun l granted => ?_, fun k e found tool => ?_⟩
  · rw [sound.isGranted_append] at granted
    split at granted
    · next index =>
        refine ⟨_, _, new, ?_⟩
        obtain ⟨i, n⟩ := l
        simp only [beq_iff_eq] at index granted
        simp [Key.lease, fresh, index, granted]
    · obtain ⟨k, e, found, rfl⟩ := leased.owner l granted
      exact ⟨k, e, sound.get?_append_of_some id kind status now found, rfl⟩
  · rw [sound.isGranted_append]
    by_cases at_new : k = (s.append id kind status now).1
    · subst at_new
      obtain rfl := Option.some.inj (found.symm.trans new)
      have running : status = .running := runs tool
      simp [Key.lease, fresh, Entry.isRunning, running]
    · have found_before : s.get? k = some e := by
        rwa [sound.get?_append, if_neg at_new] at found
      have other : (k.lease e).index ≠ (s.append id kind status now).1.index :=
        fun index => at_new (eq_of_index_eq found new index)
      rw [if_neg other]
      exact leased.tool k e found_before tool

theorem Leased.without (leased : s.Leased) (found : s.get? k = some e) (p : Nat)
    (id : CorrelationId) : (s.without k p id).Leased := by
  have after {k' : Key} {e' : Entry} (found' : s.get? k' = some e') (other : k' ≠ k) :
      (s.without k p id).get? k' = some e' := by
    rw [get?_without found, if_neg other]
    exact found'
  refine ⟨fun l granted => ?_, fun k' e' found' tool => ?_⟩
  · rw [isGranted_without found, Bool.and_eq_true] at granted
    obtain ⟨k', e', found', rfl⟩ := leased.owner l granted.2
    have other : k' ≠ k := by
      rintro rfl
      simp [Key.lease] at granted
    exact ⟨k', e', after found' other, rfl⟩
  · rw [get?_without found] at found'
    split at found'
    · exact absurd found' (by simp)
    · next same =>
        have other : k'.index ≠ k.index := fun index => same (eq_of_index_eq found' found index)
        rw [isGranted_without found, ← leased.tool k' e' found' tool]
        simp [Key.lease, other]

end Store

end Chronicle
