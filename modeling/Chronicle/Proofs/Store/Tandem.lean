import Chronicle.Proofs.Store.Ledger

/-!
# A store and its ledger, step by step

`Tandem.Inv` is carried along a run, one lemma for each operation (`Inv.append`, `Inv.edit`,
`Inv.releaseLease`, `Inv.evict`), and with it goes that a key whose entry is gone finds nothing from
then on (`Inv.run`).

The bound on evictions is used in one place, `Inv.passed_without`: the generation of the freed slot has
to grow, so that the keys handed out before are told apart from those to come.
-/

namespace Chronicle

namespace Tandem

variable {cap : Nat} {t t' : Tandem} {k : Key} {e : Entry}

/-! ## Looking up -/

section LookUp

variable (inv : t.Inv cap)
include inv

theorem Inv.mem_live : e ∈ t.ledger.live ↔ ∃ k, t.store.get? k = some e := by
  rw [← inv.live, List.mem_map]
  constructor
  · rintro ⟨⟨k, e⟩, mem, rfl⟩
    exact ⟨k, inv.sound.mem_entries.mp mem⟩
  · rintro ⟨k, found⟩
    exact ⟨(k, e), inv.sound.mem_entries.mpr found, rfl⟩

theorem Inv.increasing : (t.ledger.live.map (·.sequence)).Pairwise (· < ·) := by
  rw [← inv.live, List.map_map]
  exact inv.sound.increasing

/-- The number of a key is the sequence number of its entry, and of no other entry. -/
theorem Inv.key_iff {k' : Key} (found : t.store.get? k' = some e) :
    k' = k ↔ e.sequence = t.number k := by
  obtain ⟨lt, at_n⟩ := List.getElem?_eq_some_iff.mp (inv.keys.live k' e found)
  constructor
  · rintro rfl
    rw [number, ← inv.keys.nodup.idxOf_getElem e.sequence lt, at_n]
  · intro same
    rw [← at_n]
    simp only [same, number] at lt ⊢
    exact List.getElem_idxOf lt

theorem Inv.find?_eq_some {n : Nat} :
    t.ledger.find? n = some e ↔ e ∈ t.ledger.live ∧ e.sequence = n := by
  constructor
  · intro found
    exact ⟨List.mem_of_find?_eq_some found, by simpa using List.find?_some found⟩
  · rintro ⟨mem, rfl⟩
    cases found : t.ledger.find? e.sequence with
    | none => exact absurd (List.find?_eq_none.mp found e mem) (by simp)
    | some e' =>
        have same : e'.sequence = e.sequence := by simpa using List.find?_some found
        obtain ⟨k, at_k⟩ := inv.mem_live.mp mem
        obtain ⟨k', at_k'⟩ := inv.mem_live.mp (List.mem_of_find?_eq_some found)
        obtain rfl := inv.sound.key_of_sequence at_k' at_k same
        exact at_k'.symm.trans at_k

/-- A key finds the entry with its number. -/
theorem Inv.get?_eq (k : Key) : t.store.get? k = t.ledger.find? (t.number k) := by
  refine Option.ext fun e => ?_
  rw [inv.find?_eq_some, inv.mem_live]
  constructor
  · intro found
    exact ⟨⟨k, found⟩, (inv.key_iff found).mp rfl⟩
  · rintro ⟨⟨k', found⟩, same⟩
    rwa [← (inv.key_iff found).mpr same]

theorem Inv.getElem?_live (p : Nat) : t.ledger.live[p]? = t.store.entryAt? p := by
  rw [← inv.live, List.getElem?_map, inv.sound.entryAt?_eq]

/-- Only one position holds a number, so the first one that does is the only one. -/
theorem Inv.position?_eq_some {n p : Nat} :
    t.ledger.position? n = some p ↔ ∃ e, t.ledger.live[p]? = some e ∧ e.sequence = n := by
  rw [Ledger.position?, List.findIdx?_eq_some_iff_getElem]
  constructor
  · rintro ⟨lt, at_p, -⟩
    exact ⟨t.ledger.live[p], List.getElem?_eq_getElem lt, by simpa using at_p⟩
  · rintro ⟨e, at_p, rfl⟩
    obtain ⟨lt, rfl⟩ := List.getElem?_eq_some_iff.mp at_p
    refine ⟨lt, by simp, fun q before => ?_⟩
    have grow := List.pairwise_iff_getElem.mp (List.pairwise_map.mp inv.increasing)
    have less := grow q p (Nat.lt_trans before lt) lt before
    simpa using Nat.ne_of_lt less

/-- A key stands where the entry with its number does. -/
theorem Inv.positionOf?_eq (k : Key) :
    t.store.positionOf? k = t.ledger.position? (t.number k) := by
  refine Option.ext fun p => ?_
  rw [inv.sound.positionOf?_eq_some, inv.position?_eq_some]
  constructor
  · intro at_p
    obtain ⟨e, found⟩ := (inv.sound.live k).mpr (List.mem_of_getElem? at_p)
    refine ⟨e, ?_, (inv.key_iff found).mp rfl⟩
    rw [inv.getElem?_live, Store.entryAt?_of_keyAt? at_p, found]
  · rintro ⟨e, at_p, same⟩
    rw [inv.getElem?_live] at at_p
    obtain ⟨k', at_p, found⟩ := Option.bind_eq_some_iff.mp at_p
    rwa [← (inv.key_iff found).mpr same]

end LookUp

/-! ## Appending -/

section Append

variable (inv : t.Inv cap) (id : CorrelationId) (kind : Kind) (status : Status) (now : Instant)
include inv

/-- The key of a new entry was not handed out before: those of its slot are of an earlier
generation. -/
theorem Inv.append_not_mem : (t.store.append id kind status now).1 ∉ t.issued := by
  intro mem
  obtain ⟨g, of_slot, live | past⟩ := inv.keys.passed _ mem
  · exact inv.sound.append_not_mem id kind status now live
  · exact absurd past (by rw [inv.sound.generation_append id kind status now of_slot]; simp)

theorem Inv.keys_append : (t.append id kind status now).KeysHold := by
  rw [Tandem.append]
  have new := inv.append_not_mem id kind status now
  refine ⟨?nodup, ?live, ?passed, ?bounded⟩
  case nodup =>
    refine List.nodup_append.mpr ⟨inv.keys.nodup, List.nodup_singleton _, ?_⟩
    intro k mem k' last same
    exact new (List.mem_singleton.mp last ▸ same ▸ mem)
  case live =>
    intro k e found
    rw [inv.sound.get?_append] at found
    split at found
    · next same =>
        obtain rfl := Option.some.inj found
        rw [show (t.store.fresh id kind status now).sequence = t.issued.length from
          inv.next.trans inv.count.symm, List.getElem?_concat_length, same]
    · have old := inv.keys.live k e found
      rwa [List.getElem?_append_left (List.getElem?_eq_some_iff.mp old).1]
  case passed =>
    intro k mem
    rw [Store.order_append]
    rcases List.mem_append.mp mem with mem | last
    · obtain ⟨g, of_slot, rest⟩ := inv.keys.passed k mem
      exact ⟨g, inv.sound.generation?_append id kind status now of_slot,
        rest.imp_left (List.mem_append_left _)⟩
    · rw [List.mem_singleton.mp last]
      exact ⟨_, inv.sound.generation?_append_key id kind status now, .inl (by simp)⟩
  case bounded =>
    intro i g of_slot
    rcases inv.sound.generation?_append_cases id kind status now of_slot with before | rfl
    · exact inv.keys.bounded i g before
    · exact Nat.zero_le _

/-- The new id gets the new key, and no other id is touched. -/
theorem Inv.ids_append (unseen : t.store.hasSeen id = false) :
    (t.append id kind status now).IdsHold cap := by
  rw [Tandem.append]
  have found := inv.sound.get?_append id kind status now
  have looked := t.store.lookup_append id kind status now
  have unseen : t.store.ids.lookup id = none := by simpa [Store.hasSeen] using unseen
  have old_id : ∀ {id' k}, t.store.ids.lookup id' = some k → id' ≠ id := by
    rintro id' k known rfl
    exact Option.some_ne_none k (known.symm.trans unseen)
  have old_key : ∀ {k}, k ∈ t.issued → k ≠ (t.store.append id kind status now).1 := by
    rintro k mem rfl
    exact inv.append_not_mem id kind status now mem
  refine ⟨?retiredCap, ?retired, ?nodup, ?live, ?remembered, ?known⟩
  case retiredCap => exact (t.store.retiredCap_append id kind status now).trans inv.ids.retiredCap
  all_goals simp only [Store.retired_append]
  case retired => exact inv.ids.retired
  case nodup => exact inv.ids.nodup
  case live =>
    intro k e at_k
    rw [found] at at_k
    rw [looked]
    split at at_k
    · next same =>
        obtain rfl := Option.some.inj at_k
        exact (if_pos rfl).trans (congrArg some same.symm)
    · have known := inv.ids.live k e at_k
      rwa [if_neg (old_id known)]
  case remembered =>
    intro id' mem
    obtain ⟨k, handed, known, dead⟩ := inv.ids.remembered id' mem
    refine ⟨k, List.mem_append_left _ handed, ?_, ?_⟩
    · rwa [looked, if_neg (old_id known)]
    · rwa [found, if_neg (old_key handed)]
  case known =>
    intro id' k known
    rw [looked] at known
    split at known
    · next same =>
        obtain rfl := Option.some.inj known
        exact .inl ⟨_, (found _).trans (if_pos rfl), same.symm⟩
    · refine (inv.ids.known id' k known).imp_left ?_
      rintro ⟨e, at_k, named⟩
      have handed := List.mem_of_getElem? (inv.keys.live k e at_k)
      exact ⟨e, by rwa [found, if_neg (old_key handed)], named⟩

theorem Inv.append (unseen : t.store.hasSeen id = false) :
    (t.append id kind status now).Inv cap where
  sound := inv.sound.append id kind status now
  live := by
    rw [Tandem.append, inv.sound.entries_append, List.map_append, inv.live]
    simp [Ledger.append, Store.fresh, inv.next]
  next := by
    rw [Tandem.append, Store.nextSequence_append, inv.next, Ledger.next_append]
  count := by
    rw [Tandem.append, List.length_append, inv.count, Ledger.next_append]
    rfl
  keys := inv.keys_append id kind status now
  ids := inv.ids_append id kind status now unseen

end Append

/-! ## Changes in place -/

/-- A change in place keeps the facts about keys and ids, as it keeps what the keys name. -/
theorem Inv.of_named (inv : t.Inv cap) {s : Store} {h : Ledger}
    (order : s.order = t.store.order) (ids : s.ids = t.store.ids)
    (retired : s.retired = t.store.retired) (retiredCap : s.retiredCap = t.store.retiredCap)
    (gone : h.gone = t.ledger.gone) (slots : ∀ i, s.generation? i = t.store.generation? i)
    (named : ∀ k name, (∃ e, s.get? k = some e ∧ e.name = name) ↔
      ∃ e, t.store.get? k = some e ∧ e.name = name) :
    KeysHold ⟨s, t.issued, h⟩ ∧ IdsHold cap ⟨s, t.issued, h⟩ := by
  have dead : ∀ k, t.store.get? k = none → s.get? k = none := by
    intro k none
    refine Option.eq_none_iff_forall_ne_some.mpr fun e found => ?_
    obtain ⟨e', found', -⟩ := (named k e.name).mp ⟨e, found, rfl⟩
    exact Option.some_ne_none e' (found'.symm.trans none)
  refine ⟨⟨inv.keys.nodup, ?live, ?passed, ?bounded⟩,
    ⟨?retiredCap, ?retired, ?nodup, ?live_id, ?remembered, ?known⟩⟩
  all_goals simp only [order, ids, retired, retiredCap, slots]
  case live =>
    intro k e found
    obtain ⟨e', found', same⟩ := (named k e.name).mp ⟨e, found, rfl⟩
    have number : e'.sequence = e.sequence := congrArg Prod.snd same
    exact number ▸ inv.keys.live k e' found'
  case passed => exact inv.keys.passed
  case bounded => exact gone ▸ inv.keys.bounded
  case retiredCap => exact inv.ids.retiredCap
  case retired => rw [inv.ids.retired, Ledger.remembered, Ledger.remembered, gone]
  case nodup => exact inv.ids.nodup
  case live_id =>
    intro k e found
    obtain ⟨e', found', same⟩ := (named k e.name).mp ⟨e, found, rfl⟩
    have id : e'.id = e.id := congrArg Prod.fst same
    exact id ▸ inv.ids.live k e' found'
  case remembered =>
    intro id mem
    obtain ⟨k, handed, known, none⟩ := inv.ids.remembered id mem
    exact ⟨k, handed, known, dead k none⟩
  case known =>
    intro id k known
    refine (inv.ids.known id k known).imp_left ?_
    rintro ⟨e, found, rfl⟩
    obtain ⟨e', found', same⟩ := (named k e.name).mpr ⟨e, found, rfl⟩
    exact ⟨e', found', congrArg Prod.fst same⟩

theorem Inv.edit (inv : t.Inv cap) (k : Key) (f : Edit) : (t.edit k f).Inv cap := by
  have next : (t.ledger.edit (t.number k) f).next = t.ledger.next := by
    simp [Ledger.edit, Ledger.next]
  obtain ⟨keys, ids⟩ := inv.of_named (s := t.store.update k f.run)
    (h := t.ledger.edit (t.number k) f) rfl rfl rfl rfl rfl (t.store.generation?_update k f.run)
    fun k' name => t.store.named_update k k' f name
  refine ⟨inv.sound.edit k f, ?_, inv.next.trans next.symm, inv.count.trans next.symm, keys, ids⟩
  rw [Tandem.edit, Store.entries_update, List.map_map, Ledger.edit, ← inv.live, List.map_map]
  refine List.map_congr_left ?_
  rintro ⟨k', e⟩ mem
  have number := inv.key_iff (k := k) (inv.sound.mem_entries.mp mem)
  by_cases same : k' = k
  · simp [same, number.mp same]
  · have other : ¬ e.sequence = t.number k := fun h => same (number.mpr h)
    simp [same, other]

theorem Inv.releaseLease (inv : t.Inv cap) (k : Key) : (t.releaseLease k).Inv cap := by
  obtain ⟨keys, ids⟩ := inv.of_named (s := t.store.releaseLease k) (h := t.ledger) rfl rfl rfl rfl
    rfl (t.store.generation?_releaseLease k) fun k' name => by rw [Store.get?_releaseLease]
  refine ⟨inv.sound.releaseLease k, ?_, inv.next, inv.count, keys, ids⟩
  rw [Tandem.releaseLease, Store.entries_releaseLease, inv.live]

/-! ## Evicting -/

/-- Store and ledger refuse an eviction alike, or take out the same entry. -/
theorem Inv.evict_cases (inv : t.Inv cap) (k : Key) :
    (∃ v, t.store.evict k = (.error v, t.store) ∧
      t.ledger.evict k (t.number k) = (.error v, t.ledger)) ∨
    ∃ e p, t.store.get? k = some e ∧ t.store.keyAt? p = some k ∧
      t.store.evict k = (.ok e, t.store.without k p e.id) ∧
      t.ledger.evict k (t.number k) =
        (.ok e, { live := t.ledger.live.eraseIdx p, gone := t.ledger.gone ++ [e] }) := by
  have find := inv.get?_eq k
  cases found : t.store.get? k with
  | none =>
      rw [found] at find
      exact .inl ⟨.missing k, by simp [Store.evict, found], by simp [Ledger.evict, ← find]⟩
  | some e =>
      rw [found] at find
      cases finished : e.status.isFinished with
      | false =>
          exact .inl ⟨.active k, by simp [Store.evict, found, finished],
            by simp [Ledger.evict, ← find, finished]⟩
      | true =>
          cases kept : e.discarded with
          | true =>
              exact .inl ⟨.discarded k, by simp [Store.evict, found, finished, kept],
                by simp [Ledger.evict, ← find, finished, kept]⟩
          | false =>
              obtain ⟨p, at_p, evicted⟩ := inv.sound.evict_of_finished found finished kept
              have position : t.ledger.position? (t.number k) = some p := by
                rw [← inv.positionOf?_eq, inv.sound.positionOf?_eq_some.mpr at_p]
              refine .inr ⟨e, p, rfl, at_p, evicted, ?_⟩
              rw [Ledger.position?] at position
              simp [Ledger.evict, ← find, finished, kept, List.eraseP_eq_eraseIdx, position]

section Remove

variable (inv : t.Inv cap) {p : Nat} (found : t.store.get? k = some e)
include inv found

/-- The id of a live entry is not among those remembered: the index gives it a key that finds the
entry. -/
theorem Inv.id_not_retired : e.id ∉ t.store.retired := by
  intro mem
  obtain ⟨k', -, known, dead⟩ := inv.ids.remembered e.id mem
  have same : k' = k := Option.some.inj (known.symm.trans (inv.ids.live k e found))
  exact Option.some_ne_none e (found.symm.trans (same ▸ dead))

theorem Inv.queue_nodup : (t.store.retired ++ [e.id]).Nodup := by
  refine List.nodup_append.mpr ⟨inv.ids.nodup, List.nodup_singleton _, ?_⟩
  intro id mem id' last same
  rw [same, List.mem_singleton.mp last] at mem
  exact inv.id_not_retired found mem

/-- Every id of the queue is known under a key handed out, which finds nothing once the entry is
taken out. -/
theorem Inv.queue_id (p : Nat) {id : CorrelationId} (mem : id ∈ t.store.retired ++ [e.id]) :
    ∃ k' ∈ t.issued, t.store.ids.lookup id = some k' ∧
      (t.store.without k p e.id).get? k' = none := by
  rcases List.mem_append.mp mem with old | last
  · obtain ⟨k', handed, known, dead⟩ := inv.ids.remembered id old
    refine ⟨k', handed, known, ?_⟩
    rw [Store.get?_without found, dead, ite_self]
  · rw [List.mem_singleton.mp last]
    refine ⟨k, List.mem_of_getElem? (inv.keys.live k e found), inv.ids.live k e found, ?_⟩
    rw [Store.get?_without found, if_pos rfl]

theorem Inv.lookup_without (p : Nat) (id : CorrelationId) :
    (t.store.without k p e.id).ids.lookup id =
      if id ∈ (t.store.retired ++ [e.id]).rdrop cap then none else t.store.ids.lookup id := by
  rw [← inv.ids.retiredCap]
  refine Store.lookup_without ?_ id
  intro id' mem k' known
  obtain ⟨k'', -, known', dead⟩ := inv.queue_id found p mem
  rwa [Option.some.inj (known.symm.trans known')]

/-- The keys handed out for the slot of the entry are of generations that are over: the slot moves
on to one that it has not had. -/
theorem Inv.passed_without {p : Nat} (at_p : t.store.keyAt? p = some k)
    (few : t.ledger.gone.length + 1 < generationLimit) {k' : Key} (handed : k' ∈ t.issued) :
    ∃ g, (t.store.without k p e.id).generation? k'.index = some g ∧
      (k' ∈ (t.store.without k p e.id).order ∨ k'.generation < g) := by
  obtain ⟨g, of_slot, rest⟩ := inv.keys.passed k' handed
  have bound := inv.keys.bounded k'.index g of_slot
  have next : nextGeneration g = g + 1 := Nat.mod_eq_of_lt (by omega)
  rw [Store.order_without, inv.sound.mem_eraseIdx_order at_p, Store.generation?_without, of_slot]
  by_cases same : k' = k
  · subst same
    have current := of_slot.symm.trans (Store.generation?_of_get? found)
    refine ⟨g + 1, by simp [next], .inr ?_⟩
    rw [Option.some.inj current]
    exact Nat.lt_succ_self _
  · rcases rest with live | past
    · exact ⟨if k'.index = k.index then g + 1 else g, by split <;> simp [next], .inl ⟨live, same⟩⟩
    · exact ⟨if k'.index = k.index then g + 1 else g, by split <;> simp [next],
        .inr (by split <;> omega)⟩

theorem Inv.keys_without {p : Nat} (at_p : t.store.keyAt? p = some k)
    (few : t.ledger.gone.length + 1 < generationLimit) {h : Ledger}
    (gone : h.gone = t.ledger.gone ++ [e]) :
    KeysHold ⟨t.store.without k p e.id, t.issued, h⟩ := by
  refine ⟨inv.keys.nodup, ?live, ?passed, ?bounded⟩
  case live =>
    intro k' e' found'
    rw [Store.get?_without found] at found'
    split at found'
    · exact absurd found' (by simp)
    · exact inv.keys.live k' e' found'
  case passed => exact fun k' handed => inv.passed_without found at_p few handed
  case bounded =>
    intro i g of_slot
    rw [Store.generation?_without] at of_slot
    rw [gone, List.length_append, List.length_singleton]
    split at of_slot
    · obtain ⟨g', of_slot', rfl⟩ := Option.map_eq_some_iff.mp of_slot
      exact Nat.le_trans (Nat.mod_le _ _) (Nat.succ_le_succ (inv.keys.bounded i g' of_slot'))
    · exact Nat.le_succ_of_le (inv.keys.bounded i g of_slot)

/-- The evicted id enters the queue, and those that fall out of it are forgotten.  No id is in the
queue twice, so none of them stays remembered. -/
theorem Inv.ids_without (p : Nat) {h : Ledger} (gone : h.gone = t.ledger.gone ++ [e]) :
    IdsHold cap ⟨t.store.without k p e.id, t.issued, h⟩ := by
  have left := Store.get?_without found p e.id
  have looked := inv.lookup_without found p
  have kept : (t.store.without k p e.id).retired = (t.store.retired ++ [e.id]).rtake cap := by
    rw [Store.retired_without, inv.ids.retiredCap]
  have queue : ∀ {id}, id ∈ t.store.retired ++ [e.id] →
      (id ∈ (t.store.retired ++ [e.id]).rdrop cap ↔
        id ∉ (t.store.retired ++ [e.id]).rtake cap) :=
    fun mem => Store.mem_rdrop_iff (inv.queue_nodup found) mem cap
  refine ⟨?retiredCap, ?retired, ?nodup, ?live, ?remembered, ?known⟩
  case retiredCap => exact (t.store.retiredCap_without k p e.id).trans inv.ids.retiredCap
  case retired =>
    rw [kept, inv.ids.retired, Ledger.remembered, Store.rtake_rtake_append, Ledger.remembered, gone,
      List.map_append]
    rfl
  case nodup =>
    rw [kept]
    exact (inv.queue_nodup found).sublist (List.drop_sublist _ _)
  case live =>
    intro k' e' found'
    rw [left] at found'
    split at found'
    · exact absurd found' (by simp)
    · next other =>
        rw [looked, if_neg]
        · exact inv.ids.live k' e' found'
        · intro dropped
          rcases List.mem_append.mp (List.mem_of_mem_take dropped) with old | last
          · exact inv.id_not_retired found' old
          · have known := inv.ids.live k' e' found'
            rw [List.mem_singleton.mp last, inv.ids.live k e found] at known
            exact other (Option.some.inj known).symm
  case remembered =>
    intro id mem
    rw [kept] at mem
    have queued := List.mem_of_mem_drop mem
    obtain ⟨k', handed, known, dead⟩ := inv.queue_id found p queued
    refine ⟨k', handed, ?_, dead⟩
    rw [looked, if_neg]
    · exact known
    · exact fun dropped => (queue queued).mp dropped mem
  case known =>
    intro id k' known
    rw [looked] at known
    split at known
    · exact absurd known (by simp)
    · next not_dropped =>
        have remembered : id ∈ t.store.retired ++ [e.id] →
            id ∈ (t.store.without k p e.id).retired := by
          intro queued
          rw [kept]
          exact not_not.mp ((queue queued).not.mp not_dropped)
        rcases inv.ids.known id k' known with ⟨e', found', rfl⟩ | old
        · by_cases same : k' = k
          · rw [same, found] at found'
            obtain rfl := Option.some.inj found'
            exact .inr (remembered (by simp))
          · exact .inl ⟨e', (left k').trans ((if_neg same).trans found'), rfl⟩
        · exact .inr (remembered (List.mem_append_left _ old))

theorem Inv.remove {p : Nat} (at_p : t.store.keyAt? p = some k)
    (few : t.ledger.gone.length + 1 < generationLimit) :
    Inv cap ⟨t.store.without k p e.id, t.issued,
      { live := t.ledger.live.eraseIdx p, gone := t.ledger.gone ++ [e] }⟩ := by
  have inside : p < t.ledger.live.length := by
    rw [← inv.live, List.length_map, inv.sound.length_entries]
    exact (List.getElem?_eq_some_iff.mp at_p).1
  have next : Ledger.next ⟨t.ledger.live.eraseIdx p, t.ledger.gone ++ [e]⟩ = t.ledger.next := by
    have := List.length_eraseIdx_add_one inside
    simp only [Ledger.next, List.length_append, List.length_singleton]
    omega
  refine ⟨inv.sound.without at_p e.id, ?_, ?_, inv.count.trans next.symm,
    inv.keys_without found at_p few rfl, inv.ids_without found p rfl⟩
  · rw [inv.sound.entries_without at_p, ← List.eraseIdx_map, inv.live]
  · rw [Store.nextSequence_without, inv.next, next]

end Remove

theorem Inv.evict (inv : t.Inv cap) (k : Key)
    (few : (t.evict k).ledger.gone.length < generationLimit) : (t.evict k).Inv cap := by
  unfold Tandem.evict at few ⊢
  rcases inv.evict_cases k with ⟨v, refused, refused'⟩ | ⟨e, p, found, at_p, evicted, evicted'⟩
  · rw [refused, refused']
    exact inv
  · rw [evicted'] at few
    rw [evicted, evicted']
    exact inv.remove found at_p (by simpa using few)

/-! ## Runs -/

/-- No operation takes back an eviction. -/
theorem Step.gone_le (step : Step t t') : t.ledger.gone.length ≤ t'.ledger.gone.length := by
  cases step with
  | append id kind status now unseen => exact Nat.le_refl _
  | edit k f => exact Nat.le_refl _
  | releaseLease k => exact Nat.le_refl _
  | evict k =>
      unfold Tandem.evict Ledger.evict
      repeat' split
      all_goals simp

theorem Step.issued_prefix (step : Step t t') : t.issued <+: t'.issued := by
  cases step with
  | append id kind status now unseen => exact List.prefix_append _ _
  | edit k f => exact List.prefix_refl _
  | releaseLease k => exact List.prefix_refl _
  | evict k => exact List.prefix_refl _

theorem Inv.step (inv : t.Inv cap) (step : Step t t')
    (few : t'.ledger.gone.length < generationLimit) : t'.Inv cap := by
  cases step with
  | append id kind status now unseen => exact inv.append id kind status now unseen
  | edit k f => exact inv.edit k f
  | releaseLease k => exact inv.releaseLease k
  | evict k => exact inv.evict k few

/-- A key that finds nothing after it was handed out goes on finding nothing: new keys are other
keys. -/
theorem Inv.gone_step (inv : t.Inv cap) (step : Step t t') (handed : k ∈ t.issued)
    (gone : t.store.get? k = none) : t'.store.get? k = none := by
  cases step with
  | append id kind status now unseen =>
      have other : k ≠ (t.store.append id kind status now).1 := fun same =>
        inv.append_not_mem id kind status now (same ▸ handed)
      exact (inv.sound.get?_append id kind status now k).trans ((if_neg other).trans gone)
  | edit k' f => exact (t.store.get?_update_eq_none f.run).mpr gone
  | releaseLease k' => exact (t.store.get?_releaseLease k' k).trans gone
  | evict k' =>
      rw [Tandem.evict]
      rcases inv.evict_cases k' with ⟨v, refused, -⟩ | ⟨e, p, found, -, evicted, -⟩
      · rw [refused]
        exact gone
      · rw [evicted, Store.get?_without found, gone, ite_self]

/-- The invariant holds along a run, and what is gone stays gone. -/
theorem Inv.run (inv : t.Inv cap) (run : Run t t')
    (few : t'.ledger.gone.length < generationLimit) :
    t'.Inv cap ∧ ∀ k ∈ t.issued, t.store.get? k = none →
      k ∈ t'.issued ∧ t'.store.get? k = none := by
  induction run with
  | refl => exact ⟨inv, fun k handed gone => ⟨handed, gone⟩⟩
  | tail _ step ih =>
      obtain ⟨inv, stays⟩ := ih (Nat.lt_of_le_of_lt step.gone_le few)
      refine ⟨inv.step step few, fun k handed gone => ?_⟩
      obtain ⟨handed, gone⟩ := stays k handed gone
      exact ⟨step.issued_prefix.subset handed, inv.gone_step step handed gone⟩

end Tandem

end Chronicle
