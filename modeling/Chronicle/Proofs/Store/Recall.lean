import Chronicle.Proofs.Store.Minted
import Chronicle.Proofs.Timeline.Keys

/-!
# What a store recalls

The ids of the entries evicted last are remembered, with the keys that they had.  The slots of these keys
have other entries by now, and no key must lead to one of those.  It does not, while fewer ids are
remembered than there are generations: the slot of the id that was evicted `n` evictions ago has moved on by one
generation at least and by `n` at most (`Recalls.behind`), so it has not come round to the generation of
the key again.  Then an id leads to the live entry that has it, or to nothing (`Recalls.id_eq`), however
many entries have passed through.

`Advance` is one operation on a store where no id is given twice, and `Remembers` what every one of them keeps.
-/

namespace Chronicle

namespace Store

variable {s s' : Store} {k k' : Key} {e e' : Entry} {n p : Nat} {id : CorrelationId}

/-! ## Keys of the past -/

/-- The slot of a key has moved on since, by `n` generations at most. -/
def Behind (s : Store) (k : Key) (n : Nat) : Prop :=
  ∃ d, 0 < d ∧ d ≤ n ∧ k.generation < generationLimit ∧
    s.generation? k.index = some ((k.generation + d) % generationLimit)

/-- A slot that has moved on by less than all generations is not where it was. -/
theorem Behind.get?_eq_none (behind : s.Behind k n) (few : n < generationLimit) :
    s.get? k = none := by
  obtain ⟨d, pos, le, lt, of_slot⟩ := behind
  cases found : s.get? k with
  | none => rfl
  | some e =>
      have same := Option.some.inj (of_slot.symm.trans (generation?_of_get? found))
      rcases Nat.lt_or_ge (k.generation + d) generationLimit with below | above
      · rw [Nat.mod_eq_of_lt below] at same
        omega
      · rw [Nat.mod_eq_sub_mod above, Nat.mod_eq_of_lt (by omega)] at same
        omega

theorem Behind.edit (behind : s.Behind k n) (k' : Key) (f : Edit) :
    (s.update k' f.run).Behind k n := by
  simpa only [Behind, generation?_update] using behind

theorem Behind.releaseLease (behind : s.Behind k n) (k' : Key) : (s.releaseLease k').Behind k n := by
  simpa only [Behind, generation?_releaseLease] using behind

theorem Behind.append (behind : s.Behind k n) (sound : s.Sound) (id : CorrelationId) (kind : Kind)
    (status : Status) (now : Instant) : (s.append id kind status now).2.Behind k n := by
  obtain ⟨d, pos, le, lt, of_slot⟩ := behind
  exact ⟨d, pos, le, lt, sound.generation?_append id kind status now of_slot⟩

/-- Each eviction moves a slot on by one generation at most. -/
theorem Behind.without (behind : s.Behind k n) (k' : Key) (p : Nat) (id : CorrelationId) :
    (s.without k' p id).Behind k (n + 1) := by
  obtain ⟨d, pos, le, lt, of_slot⟩ := behind
  rw [Behind]
  rw [generation?_without]
  split
  · refine ⟨d + 1, by omega, by omega, lt, ?_⟩
    rw [of_slot, Option.map_some, nextGeneration, Nat.mod_add_mod, Nat.add_assoc]
  · exact ⟨d, pos, by omega, lt, of_slot⟩

/-- The slot of the entry that is evicted moves on by one. -/
theorem behind_without_self (found : s.get? k = some e) (lt : k.generation < generationLimit)
    (p : Nat) (id : CorrelationId) : (s.without k p id).Behind k 1 := by
  refine ⟨1, Nat.one_pos, Nat.le_refl _, lt, ?_⟩
  rw [generation?_without, if_pos rfl, generation?_of_get? found]
  rfl

/-! ## Ids of the past -/

/-- The ids that a store knows are those of its entries and those it remembers, each of them once. -/
structure Recalls (s : Store) : Prop where
  known : ∀ id k, s.ids.lookup id = some k → (∃ e, s.get? k = some e ∧ e.id = id) ∨ id ∈ s.retired
  live : ∀ k e, s.get? k = some e → s.ids.lookup e.id = some k
  nodup : s.retired.Nodup
  /-- The later an id was evicted, the fewer generations its slot can have moved on by. -/
  behind : ∀ i id, s.retired.reverse[i]? = some id →
    ∃ k, s.ids.lookup id = some k ∧ s.Behind k (i + 1)

section Recalls

variable (recalls : s.Recalls) (few : s.retired.length < generationLimit)
include recalls few

/-- An id that is remembered leads to nothing. -/
theorem Recalls.get?_eq_none (remembered : id ∈ s.retired) (looked : s.ids.lookup id = some k) :
    s.get? k = none := by
  obtain ⟨i, at_i⟩ := List.getElem?_of_mem (List.mem_reverse.mpr remembered)
  obtain ⟨k', looked', behind⟩ := recalls.behind i id at_i
  obtain rfl := Option.some.inj (looked.symm.trans looked')
  have lt := (List.getElem?_eq_some_iff.mp at_i).1
  rw [List.length_reverse] at lt
  exact behind.get?_eq_none (by omega)

/-- An id leads to no entry but the one that has it. -/
theorem Recalls.id_eq (looked : s.ids.lookup id = some k) (found : s.get? k = some e) :
    e.id = id := by
  rcases recalls.known id k looked with ⟨e', found', same⟩ | remembered
  · rw [Option.some.inj (found.symm.trans found')]
    exact same
  · exact absurd (found.symm.trans (recalls.get?_eq_none few remembered looked)) (by simp)

/-- The id of a live entry is not one of the past. -/
theorem Recalls.not_mem_retired (found : s.get? k = some e) : e.id ∉ s.retired := by
  intro remembered
  have gone := recalls.get?_eq_none few remembered (recalls.live k e found)
  exact absurd (found.symm.trans gone) (by simp)

end Recalls

theorem recalls_empty (retiredCap : Nat) : (empty retiredCap).Recalls where
  known id k looked := absurd looked (by simp [empty])
  live k e found := absurd found (by simp [empty, get?, slot?])
  nodup := .nil
  behind i id at_i := absurd at_i (by simp [empty])

theorem Recalls.edit (recalls : s.Recalls) (k' : Key) (f : Edit) :
    (s.update k' f.run).Recalls where
  known id k looked := by
    refine (recalls.known id k looked).imp_left ?_
    rintro ⟨e, found, rfl⟩
    obtain ⟨e', found', name⟩ := (s.named_update k' k f e.name).mpr ⟨e, found, rfl⟩
    exact ⟨e', found', congrArg Prod.fst name⟩
  live k e found := by
    obtain ⟨e', found', name⟩ := (s.named_update k' k f e.name).mp ⟨e, found, rfl⟩
    have same : e'.id = e.id := congrArg Prod.fst name
    exact same ▸ recalls.live k e' found'
  nodup := recalls.nodup
  behind i id at_i := by
    obtain ⟨k, looked, behind⟩ := recalls.behind i id at_i
    exact ⟨k, looked, behind.edit k' f⟩

theorem Recalls.releaseLease (recalls : s.Recalls) (k' : Key) : (s.releaseLease k').Recalls where
  known id k looked := by
    simp only [get?_releaseLease]
    exact recalls.known id k looked
  live k e found := recalls.live k e (by rwa [get?_releaseLease] at found)
  nodup := recalls.nodup
  behind i id at_i := by
    obtain ⟨k, looked, behind⟩ := recalls.behind i id at_i
    exact ⟨k, looked, behind.releaseLease k'⟩

/-- A new entry under a new id. -/
theorem Recalls.append (recalls : s.Recalls) (sound : s.Sound) (unseen : s.hasSeen id = false)
    (kind : Kind) (status : Status) (now : Instant) :
    (s.append id kind status now).2.Recalls := by
  have other {id' : CorrelationId} {k : Key} (looked : s.ids.lookup id' = some k) : id' ≠ id := by
    rintro rfl
    simp [hasSeen, looked] at unseen
  refine ⟨fun id' k looked => ?_, fun k e found => ?_, ?_, fun i id' at_i => ?_⟩
  · rw [lookup_append] at looked
    rw [retired_append]
    split at looked
    · next same =>
        obtain rfl := Option.some.inj looked
        exact .inl ⟨_, by rw [sound.get?_append, if_pos rfl], same.symm⟩
    · refine (recalls.known id' k looked).imp_left ?_
      rintro ⟨e, found, same⟩
      exact ⟨e, sound.get?_append_of_some id kind status now found, same⟩
  · rw [lookup_append]
    rw [sound.get?_append] at found
    split at found
    · next new =>
        obtain rfl := Option.some.inj found
        rw [new]
        exact if_pos rfl
    · have looked := recalls.live k e found
      rw [if_neg (other looked)]
      exact looked
  · rw [retired_append]
    exact recalls.nodup
  · rw [retired_append] at at_i
    obtain ⟨k, looked, behind⟩ := recalls.behind i id' at_i
    refine ⟨k, ?_, behind.append sound id kind status now⟩
    rw [lookup_append, if_neg (other looked)]
    exact looked

/-! ### An eviction

The id of the entry that is evicted joins those that are remembered, and the oldest of these may be forgotten. -/

section Without

variable (recalls : s.Recalls) (few : s.retired.length < generationLimit) (found : s.get? k = some e)
include recalls few found

theorem Recalls.nodup_retired_append : (s.retired ++ [e.id]).Nodup := by
  rw [List.nodup_append]
  refine ⟨recalls.nodup, List.nodup_singleton _, fun id remembered id' last => ?_⟩
  rw [List.mem_singleton.mp last]
  rintro rfl
  exact recalls.not_mem_retired few found remembered

/-- Of the entries that stay, none has an id that is remembered. -/
theorem Recalls.not_mem_retired_append (found' : s.get? k' = some e') (there : k' ≠ k) :
    e'.id ∉ s.retired ++ [e.id] := by
  intro mem
  rcases List.mem_append.mp mem with remembered | last
  · exact recalls.not_mem_retired few found' remembered
  · have looked := recalls.live k' e' found'
    rw [List.mem_singleton.mp last, recalls.live k e found] at looked
    exact there (Option.some.inj looked).symm

theorem Recalls.lookup_without (p : Nat) (id : CorrelationId) :
    (s.without k p e.id).ids.lookup id =
      if id ∈ (s.retired ++ [e.id]).rdrop s.retiredCap then none else s.ids.lookup id := by
  refine Store.lookup_without (fun id' mem k' looked => ?_) id
  rw [get?_without found]
  split
  · rfl
  · next there =>
      cases found' : s.get? k' with
      | none => rfl
      | some e' =>
          obtain rfl := recalls.id_eq few looked found'
          exact absurd mem (recalls.not_mem_retired_append few found found' there)

/-- An id that has been seen and is not forgotten is remembered, if it is not the id of a live entry. -/
theorem Recalls.known_without (p : Nat) {k' : Key}
    (looked : (s.without k p e.id).ids.lookup id = some k') :
    (∃ e', (s.without k p e.id).get? k' = some e' ∧ e'.id = id) ∨
      id ∈ (s.without k p e.id).retired := by
  rw [recalls.lookup_without few found] at looked
  split at looked
  · exact absurd looked (by simp)
  · next kept =>
      have remembered (mem : id ∈ s.retired ++ [e.id]) : id ∈ (s.without k p e.id).retired := by
        rw [retired_without]
        exact not_not.mp fun dropped =>
          kept ((mem_rdrop_iff (recalls.nodup_retired_append few found) mem _).mpr dropped)
      rcases recalls.known id k' looked with ⟨e', found', rfl⟩ | before
      · by_cases here : k' = k
        · subst here
          obtain rfl := Option.some.inj (found.symm.trans found')
          exact .inr (remembered (by simp))
        · exact .inl ⟨e', by rw [get?_without found, if_neg here]; exact found', rfl⟩
      · exact .inr (remembered (List.mem_append_left _ before))

/-- What is remembered was remembered before, or is the id of the entry that is evicted; in both cases its key
is still known. -/
theorem Recalls.remembered_without (p : Nat) {i : Nat}
    (at_i : (s.without k p e.id).retired.reverse[i]? = some id) :
    (e.id :: s.retired.reverse)[i]? = some id ∧
      (s.without k p e.id).ids.lookup id = s.ids.lookup id := by
  rw [retired_without, List.rtake_eq_reverse_take_reverse, List.reverse_reverse, List.reverse_append,
    List.reverse_singleton, List.singleton_append] at at_i
  have kept : id ∈ (s.retired ++ [e.id]).rtake s.retiredCap := by
    rw [List.rtake_eq_reverse_take_reverse, List.reverse_append]
    exact List.mem_reverse.mpr (List.mem_of_getElem? at_i)
  have mem : id ∈ s.retired ++ [e.id] := List.mem_of_mem_drop kept
  have not_dropped : id ∉ (s.retired ++ [e.id]).rdrop s.retiredCap := fun dropped =>
    (mem_rdrop_iff (recalls.nodup_retired_append few found) mem _).mp dropped kept
  refine ⟨?_, by rw [recalls.lookup_without few found, if_neg not_dropped]⟩
  rw [List.getElem?_take] at at_i
  split at at_i
  · exact at_i
  · exact absurd at_i (by simp)

theorem Recalls.without (lt : k.generation < generationLimit) (p : Nat) :
    (s.without k p e.id).Recalls where
  known id k' looked := recalls.known_without few found p looked
  live k' e' found' := by
    rw [get?_without found] at found'
    split at found'
    · exact absurd found' (by simp)
    · next there =>
        rw [recalls.lookup_without few found, if_neg, recalls.live k' e' found']
        exact fun dropped =>
          recalls.not_mem_retired_append few found found' there (List.mem_of_mem_take dropped)
  nodup := by
    rw [retired_without]
    exact (recalls.nodup_retired_append few found).sublist (List.drop_sublist _ _)
  behind i id at_i := by
    obtain ⟨at_i, looked⟩ := recalls.remembered_without few found p at_i
    rw [looked]
    cases i with
    | zero =>
        obtain rfl := Option.some.inj at_i
        exact ⟨k, recalls.live k e found, behind_without_self found lt p e.id⟩
    | succ i =>
        obtain ⟨k', looked', behind⟩ := recalls.behind i id at_i
        exact ⟨k', looked', behind.without k p e.id⟩

end Without

/-! ## Operations -/

/-- One operation on a store in which no id is given twice, and what runs is not taken out. -/
inductive Advance (s : Store) : Store → Prop where
  | edit (k : Key) (f : Edit) : Advance s (s.update k f.run)
  | releaseLease (k : Key) : Advance s (s.releaseLease k)
  | append (id : CorrelationId) (kind : Kind) (status : Status) (now : Instant)
      (unseen : s.hasSeen id = false) (due : id.IsDue s.nextSequence) :
      Advance s (s.append id kind status now).2
  | without {k : Key} {e : Entry} {p : Nat} (found : s.get? k = some e)
      (finished : e.status.isFinished = true) (at_p : s.keyAt? p = some k) :
      Advance s (s.without k p e.id)

abbrev Advances : Store → Store → Prop := Relation.ReflTransGen Advance

/-- What holds of every store that such operations have made. -/
structure Remembers (s : Store) : Prop where
  sound : s.Sound
  paced : s.Paced
  reserves : s.Reserves
  generation_lt : ∀ i g, s.generation? i = some g → g < generationLimit
  length_le_cap : s.retired.length ≤ s.retiredCap
  length_le_gone : s.retired.length ≤ s.gone
  recalls : s.retired.length < generationLimit → s.Recalls

theorem remembers_empty (retiredCap : Nat) : (empty retiredCap).Remembers where
  sound := .empty retiredCap
  paced := paced_empty retiredCap
  reserves := reserves_empty retiredCap
  generation_lt i g of_slot := absurd of_slot (by simp [generation?, empty])
  length_le_cap := Nat.zero_le _
  length_le_gone := Nat.zero_le _
  recalls _ := recalls_empty retiredCap

theorem length_retired_without (s : Store) (k : Key) (p : Nat) (id : CorrelationId) :
    (s.without k p id).retired.length = min s.retiredCap (s.retired.length + 1) := by
  rw [retired_without, List.rtake_eq_reverse_take_reverse]
  simp

theorem Advance.remembers (advance : s.Advance s') (holds : s.Remembers) : s'.Remembers := by
  obtain ⟨sound, paced, reserves, generation_lt, length_le_cap, length_le_gone, recalls⟩ := holds
  cases advance with
  | edit k f =>
      exact ⟨sound.edit k f, paced.edit k f, reserves.of_ids rfl rfl,
        fun i g of_slot => generation_lt i g (by rwa [generation?_update] at of_slot),
        length_le_cap, length_le_gone, fun few => (recalls few).edit k f⟩
  | releaseLease k =>
      exact ⟨sound.releaseLease k, paced.releaseLease k, reserves.of_ids rfl rfl,
        fun i g of_slot => generation_lt i g (by rwa [generation?_releaseLease] at of_slot),
        length_le_cap, length_le_gone, fun few => (recalls few).releaseLease k⟩
  | append id kind status now unseen due =>
      refine ⟨sound.append id kind status now, paced.append sound id kind status now,
        reserves.append id kind status now due, fun i g of_slot => ?_, ?_, ?_, fun few => ?_⟩
      · rcases sound.generation?_append_cases id kind status now of_slot with before | rfl
        · exact generation_lt i g before
        · decide
      · rwa [retired_append, retiredCap_append]
      · rwa [retired_append, gone_append paced]
      · rw [retired_append] at few
        exact (recalls few).append sound unseen kind status now
  | @without k e p found finished at_p =>
      have length := s.length_retired_without k p e.id
      have gone := gone_without at_p paced e.id
      have cap := s.retiredCap_without k p e.id
      refine ⟨sound.without at_p e.id, paced.without at_p e.id, reserves.without k p e.id,
        fun i g of_slot => ?_, by omega, by omega, fun few => ?_⟩
      · rw [generation?_without] at of_slot
        split at of_slot
        · obtain ⟨g', -, rfl⟩ := Option.map_eq_some_iff.mp of_slot
          exact nextGeneration_lt g'
        · exact generation_lt i g of_slot
      · have fewer : s.retired.length < generationLimit := by omega
        have lt := generation_lt k.index k.generation (generation?_of_get? found)
        exact (recalls fewer).without fewer found lt p

theorem Advances.remembers (advances : Advances s s') (holds : s.Remembers) : s'.Remembers := by
  induction advances with
  | refl => exact holds
  | tail _ advance ih => exact advance.remembers ih

theorem Advances.retiredCap_eq (advances : Advances s s') : s'.retiredCap = s.retiredCap := by
  induction advances with
  | refl => rfl
  | tail _ advance ih =>
      refine Eq.trans ?_ ih
      cases advance with
      | edit k f => rfl
      | releaseLease k => rfl
      | append id kind status now unseen due => exact retiredCap_append id kind status now _
      | without found finished at_p => exact retiredCap_without _ _ _ _

end Store

end Chronicle
