import Chronicle.Proofs.Store.Ids

/-!
# Keys and ids over time

A slot moves on by one generation for each entry that leaves it, so no slot is further on than entries have
gone (`Paced`).  While fewer entries have gone than there are generations, none has come round again:
a key then names the entry it was given to, or its slot has moved on (`Names`), and an id in the index
leads to an entry of that id, or to a key whose slot has moved on (`Indexed`).

That the id of a live entry leads to it (`Lists`) needs no such bound.  It needs that nobody uses an id
before it is minted.
-/

namespace Chronicle

/-- The id is not one that is minted for an entry after the one with number `n`. -/
def CorrelationId.IsDue (id : CorrelationId) (n : Nat) : Prop :=
  ∀ sort m, id = .mint sort m → m ≤ n

namespace Store

variable {s : Store} {k k' : Key} {e : Entry} {p n : Nat} {id : CorrelationId}

/-- The number of entries that have gone. -/
def gone (s : Store) : Nat := s.nextSequence - s.size

/-- Every number was given to one entry, and no slot has moved on more often than entries have gone. -/
structure Paced (s : Store) : Prop where
  size_le : s.size ≤ s.nextSequence
  generation_le : ∀ i g, s.generation? i = some g → g + s.size ≤ s.nextSequence

/-- The slot of a key has moved on since. -/
def Passed (s : Store) (k : Key) : Prop := ∃ g, s.generation? k.index = some g ∧ k.generation < g

/-- A key names the entry with a number, or it names none any more. -/
def Names (s : Store) (k : Key) (n : Nat) : Prop :=
  (∃ e, s.get? k = some e ∧ e.sequence = n) ∨ s.Passed k

/-- What the index leads to has the id that was looked up, or is gone. -/
def Indexed (s : Store) : Prop :=
  ∀ id k, s.ids.lookup id = some k → (∃ e, s.get? k = some e ∧ e.id = id) ∨ s.Passed k

/-- The index leads from the id of a live entry to its key. -/
def Lists (s : Store) : Prop :=
  ∀ k e, s.get? k = some e → e.id.IsDue e.sequence → s.ids.lookup e.id = some k

theorem get?_of_passed (passed : s.Passed k) : s.get? k = none := by
  obtain ⟨g, of_slot, later⟩ := passed
  cases found : s.get? k with
  | none => rfl
  | some e =>
      have same := Option.some.inj (of_slot.symm.trans (generation?_of_get? found))
      omega

theorem Names.sequence_eq (names : s.Names k n) (found : s.get? k = some e) : e.sequence = n := by
  rcases names with ⟨e', found', rfl⟩ | passed
  · rw [Option.some.inj (found.symm.trans found')]
  · exact absurd (found.symm.trans (get?_of_passed passed)) (by simp)

theorem Indexed.id_eq (indexed : s.Indexed) (looked : s.ids.lookup id = some k)
    (found : s.get? k = some e) : e.id = id := by
  rcases indexed id k looked with ⟨e', found', same⟩ | passed
  · rw [Option.some.inj (found.symm.trans found')]
    exact same
  · exact absurd (found.symm.trans (get?_of_passed passed)) (by simp)

theorem Lists.keyOf?_eq (lists : s.Lists) (found : s.get? k = some e)
    (due : e.id.IsDue e.sequence) : s.keyOf? e.id = some k :=
  keyOf?_eq_some.mpr ⟨lists k e found due, e, found⟩

/-! ## An empty store -/

theorem paced_empty (retiredCap : Nat) : (empty retiredCap).Paced where
  size_le := Nat.le_refl _
  generation_le i g of_slot := by simp [generation?, empty] at of_slot

theorem indexed_empty (retiredCap : Nat) : (empty retiredCap).Indexed := by
  intro id k looked
  simp [empty] at looked

theorem lists_empty (retiredCap : Nat) : (empty retiredCap).Lists := by
  intro k e found
  simp [empty, get?, slot?] at found

/-! ## Changes in place -/

section Edit

variable (k' : Key) (f : Edit)

theorem Paced.edit (paced : s.Paced) : (s.update k' f.run).Paced where
  size_le := paced.size_le
  generation_le i g of_slot := paced.generation_le i g (by rwa [generation?_update] at of_slot)

theorem passed_edit : (s.update k' f.run).Passed k ↔ s.Passed k := by
  simp only [Passed, generation?_update]

theorem Names.edit (names : s.Names k n) : (s.update k' f.run).Names k n := by
  rcases names with ⟨e, found, rfl⟩ | passed
  · obtain ⟨e', found', name⟩ := (s.named_update k' k f e.name).mpr ⟨e, found, rfl⟩
    exact .inl ⟨e', found', congrArg Prod.snd name⟩
  · exact .inr ((passed_edit k' f).mpr passed)

theorem Indexed.edit (indexed : s.Indexed) : (s.update k' f.run).Indexed := by
  intro id k looked
  rcases indexed id k looked with ⟨e, found, rfl⟩ | passed
  · obtain ⟨e', found', name⟩ := (s.named_update k' k f e.name).mpr ⟨e, found, rfl⟩
    exact .inl ⟨e', found', congrArg Prod.fst name⟩
  · exact .inr ((passed_edit k' f).mpr passed)

theorem Lists.edit (lists : s.Lists) : (s.update k' f.run).Lists := by
  intro k e found due
  obtain ⟨e', found', name⟩ := (s.named_update k' k f e.name).mp ⟨e, found, rfl⟩
  have id : e'.id = e.id := congrArg Prod.fst name
  have sequence : e'.sequence = e.sequence := congrArg Prod.snd name
  exact id ▸ lists k e' found' (by rwa [id, sequence])

end Edit

section Release

variable (k' : Key)

theorem Paced.releaseLease (paced : s.Paced) : (s.releaseLease k').Paced where
  size_le := paced.size_le
  generation_le i g of_slot := paced.generation_le i g (by rwa [generation?_releaseLease] at of_slot)

theorem passed_releaseLease : (s.releaseLease k').Passed k ↔ s.Passed k := by
  simp only [Passed, generation?_releaseLease]

theorem Names.releaseLease (names : s.Names k n) : (s.releaseLease k').Names k n := by
  simpa only [Names, get?_releaseLease, passed_releaseLease] using names

theorem Indexed.releaseLease (indexed : s.Indexed) : (s.releaseLease k').Indexed := by
  intro id k looked
  simpa only [get?_releaseLease, passed_releaseLease] using indexed id k looked

theorem Lists.releaseLease (lists : s.Lists) : (s.releaseLease k').Lists := by
  intro k e found
  rw [get?_releaseLease] at found
  exact lists k e found

end Release

/-! ## Appending -/

section Append

variable (sound : s.Sound) (id : CorrelationId) (kind : Kind) (status : Status) (now : Instant)
include sound

theorem Paced.append (paced : s.Paced) : (s.append id kind status now).2.Paced := by
  have size := s.size_append id kind status now
  have next := s.nextSequence_append id kind status now
  have le := paced.size_le
  refine ⟨by omega, fun i g of_slot => ?_⟩
  rcases sound.generation?_append_cases id kind status now of_slot with before | rfl
  · have before_le := paced.generation_le i g before
    omega
  · omega

theorem Passed.append (passed : s.Passed k) : (s.append id kind status now).2.Passed k := by
  obtain ⟨g, of_slot, later⟩ := passed
  exact ⟨g, sound.generation?_append id kind status now of_slot, later⟩

theorem Names.append (names : s.Names k n) : (s.append id kind status now).2.Names k n := by
  rcases names with ⟨e, found, same⟩ | passed
  · exact .inl ⟨e, sound.get?_append_of_some id kind status now found, same⟩
  · exact .inr (passed.append sound id kind status now)

theorem Indexed.append (indexed : s.Indexed) : (s.append id kind status now).2.Indexed := by
  intro id' k looked
  rw [lookup_append] at looked
  split at looked
  · next same =>
      obtain rfl := Option.some.inj looked
      exact .inl ⟨_, by rw [sound.get?_append, if_pos rfl], same.symm⟩
  · rcases indexed id' k looked with ⟨e, found, same⟩ | passed
    · exact .inl ⟨e, sound.get?_append_of_some id kind status now found, same⟩
    · exact .inr (passed.append sound id kind status now)

/-- The new id is not the id of a live entry: it has not been seen, or it was minted just now. -/
theorem Lists.append (lists : s.Lists)
    (unused : s.hasSeen id = false ∨ ∃ sort, id = .mint sort s.nextSequence) :
    (s.append id kind status now).2.Lists := by
  intro k e found due
  rw [lookup_append]
  rw [sound.get?_append] at found
  split at found
  · next new =>
      obtain rfl := Option.some.inj found
      rw [new]
      exact if_pos rfl
  · have looked := lists k e found due
    have other : e.id ≠ id := by
      rintro rfl
      rcases unused with unseen | ⟨sort, minted⟩
      · simp [hasSeen, looked] at unseen
      · have le := due sort s.nextSequence minted
        have lt := sound.sequence_lt_next found
        omega
    rw [if_neg other]
    exact looked

end Append

/-! ## Evicting -/

/-- Forgetting ids adds none to the index. -/
theorem lookup_of_foldl_forget (forgotten : List CorrelationId)
    (looked : (forgotten.foldl forget s).ids.lookup id = some k) : s.ids.lookup id = some k := by
  induction forgotten generalizing s with
  | nil => exact looked
  | cons id₀ forgotten ih =>
      have rest := ih looked
      rw [forget] at rest
      split at rest
      · rw [lookup_filter (fun i => i ≠ id₀)] at rest
        split at rest
        · exact rest
        · exact absurd rest (by simp)
      · exact rest

/-- An id that leads to a live entry is not forgotten. -/
theorem keyOf?_foldl_forget (forgotten : List CorrelationId) (known : s.keyOf? id = some k) :
    (forgotten.foldl forget s).keyOf? id = some k := by
  induction forgotten generalizing s with
  | nil => exact known
  | cons id₀ forgotten ih =>
      refine ih ?_
      rw [forget]
      split
      · next dead =>
          have other : id ≠ id₀ := by
            rintro rfl
            simp [known] at dead
          obtain ⟨looked, live⟩ := keyOf?_eq_some.mp known
          refine keyOf?_eq_some.mpr ⟨?_, live⟩
          rw [lookup_filter (fun i => i ≠ id₀)]
          simp [other, looked]
      · exact known

theorem lookup_of_without {id' : CorrelationId}
    (looked : (s.without k' p id').ids.lookup id = some k) : s.ids.lookup id = some k := by
  have before := lookup_of_foldl_forget _ looked
  exact before

theorem keyOf?_without (found : s.get? k' = some e) (known : s.keyOf? id = some k) (other : k ≠ k')
    (id' : CorrelationId) : (s.without k' p id').keyOf? id = some k := by
  obtain ⟨looked, e', live⟩ := keyOf?_eq_some.mp known
  refine keyOf?_foldl_forget _ (keyOf?_eq_some.mpr ⟨looked, e', ?_⟩)
  have kept := s.get?_without found p id' k
  rw [if_neg other, Store.without, get?_retire] at kept
  exact kept.trans live

section Without

variable (at_p : s.keyAt? p = some k')
include at_p

theorem gone_without (paced : s.Paced) (id : CorrelationId) :
    (s.without k' p id).gone = s.gone + 1 := by
  have size := size_without at_p id
  have le := paced.size_le
  rw [gone, nextSequence_without, gone]
  omega

theorem Paced.without (paced : s.Paced) (id : CorrelationId) : (s.without k' p id).Paced := by
  have size := size_without at_p id
  have le := paced.size_le
  refine ⟨by rw [nextSequence_without]; omega, fun i g of_slot => ?_⟩
  rw [nextSequence_without]
  rw [generation?_without] at of_slot
  split at of_slot
  · obtain ⟨g', before, rfl⟩ := Option.map_eq_some_iff.mp of_slot
    have before_le := paced.generation_le i g' before
    have step : nextGeneration g' ≤ g' + 1 := Nat.mod_le _ _
    omega
  · have before_le := paced.generation_le i g of_slot
    omega

/-- While generations are left, the slot that is freed moves on to the next one. -/
theorem Paced.generation?_without_self (paced : s.Paced) (few : (s.without k' p id).gone < generationLimit)
    {g : Nat} (of_slot : s.generation? k'.index = some g) :
    (s.without k' p id).generation? k'.index = some (g + 1) := by
  have before_le := paced.generation_le _ g of_slot
  have size := size_without at_p id
  rw [gone_without at_p paced, gone] at few
  rw [generation?_without, if_pos rfl, of_slot, Option.map_some, nextGeneration,
    Nat.mod_eq_of_lt (by omega)]

theorem Passed.without (passed : s.Passed k) (paced : s.Paced)
    (few : (s.without k' p id).gone < generationLimit) : (s.without k' p id).Passed k := by
  obtain ⟨g, of_slot, later⟩ := passed
  by_cases same : k.index = k'.index
  · rw [same] at of_slot
    exact ⟨g + 1, same ▸ paced.generation?_without_self at_p few of_slot, by omega⟩
  · exact ⟨g, by rw [generation?_without, if_neg same]; exact of_slot, later⟩

theorem Names.without (names : s.Names k n) (paced : s.Paced) (found : s.get? k' = some e)
    (few : (s.without k' p id).gone < generationLimit) : (s.without k' p id).Names k n := by
  rcases names with ⟨e', live, same⟩ | passed
  · by_cases here : k = k'
    · subst here
      exact .inr ⟨_, paced.generation?_without_self at_p few (generation?_of_get? live), by simp⟩
    · exact .inl ⟨e', by rw [get?_without found, if_neg here]; exact live, same⟩
  · exact .inr (passed.without at_p paced few)

theorem Indexed.without (indexed : s.Indexed) (paced : s.Paced) (found : s.get? k' = some e)
    (few : (s.without k' p id).gone < generationLimit) : (s.without k' p id).Indexed := by
  intro id' k looked
  rcases indexed id' k (lookup_of_without looked) with ⟨e', live, same⟩ | passed
  · by_cases here : k = k'
    · subst here
      exact .inr ⟨_, paced.generation?_without_self at_p few (generation?_of_get? live), by simp⟩
    · exact .inl ⟨e', by rw [get?_without found, if_neg here]; exact live, same⟩
  · exact .inr (passed.without at_p paced few)

end Without

theorem Lists.without (lists : s.Lists) (found : s.get? k' = some e) :
    (s.without k' p id).Lists := by
  intro k e' found' due
  rw [get?_without found] at found'
  split at found'
  · exact absurd found' (by simp)
  · next other =>
      have known := lists.keyOf?_eq found' due
      exact (keyOf?_eq_some.mp (keyOf?_without found known other id)).1

end Store

end Chronicle
