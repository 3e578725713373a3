import Chronicle.Proofs.Store.Tandem

/-!
# The store refines the plain history

`Tandem.agrees_of_run` is the result: after any run of operations in which fewer entries were evicted
than a slot has generations, every look-up in the store is the look-up in the ledger, evictions end as
the ledger says, and a key whose entry has gone finds nothing ever after, although its slot is used
again.
-/

namespace Chronicle

namespace Tandem

variable {cap : Nat} {t : Tandem} {k : Key} {e : Entry}

section Agreement

variable (inv : t.Inv cap)
include inv

theorem Inv.number_eq {n : Nat} (handed : t.issued[n]? = some k) : t.number k = n := by
  obtain ⟨lt, rfl⟩ := List.getElem?_eq_some_iff.mp handed
  exact inv.keys.nodup.idxOf_getElem n lt

theorem Inv.get?_of_not_issued (other : k ∉ t.issued) : t.store.get? k = none := by
  cases found : t.store.get? k with
  | none => rfl
  | some e => exact absurd (List.mem_of_getElem? (inv.keys.live k e found)) other

theorem Inv.order_issued :
    t.store.order.map some = t.ledger.live.map fun e => t.issued[e.sequence]? := by
  rw [← inv.live, ← inv.sound.keys_entries, List.map_map, List.map_map]
  refine List.map_congr_left ?_
  rintro ⟨k, e⟩ mem
  exact (inv.keys.live k e (inv.sound.mem_entries.mp mem)).symm

/-- Two live entries with one id would stand under one key. -/
theorem Inv.ids_nodup : (t.ledger.live.map (·.id)).Nodup := by
  rw [← inv.live, List.map_map]
  refine List.pairwise_map.mpr (inv.sound.entries_increasing.imp_of_mem ?_)
  rintro ⟨k, e⟩ ⟨k', e'⟩ mem mem' lt same
  have found := inv.sound.mem_entries.mp mem
  have found' := inv.sound.mem_entries.mp mem'
  have known := inv.ids.live k e found
  have known' := inv.ids.live k' e' found'
  rw [show e'.id = e.id from same.symm, known] at known'
  obtain rfl := Option.some.inj known'
  obtain rfl := Option.some.inj (found.symm.trans found')
  exact absurd lt (Nat.lt_irrefl _)

theorem Inv.keyOf?_iff (id : CorrelationId) (k : Key) :
    t.store.keyOf? id = some k ↔
      ∃ e ∈ t.ledger.live, e.id = id ∧ t.issued[e.sequence]? = some k := by
  rw [Store.keyOf?_eq_some]
  constructor
  · rintro ⟨known, e, found⟩
    rcases inv.ids.known id k known with ⟨e, found, named⟩ | old
    · exact ⟨e, inv.mem_live.mpr ⟨k, found⟩, named, inv.keys.live k e found⟩
    · obtain ⟨k', -, known', dead⟩ := inv.ids.remembered id old
      obtain rfl := Option.some.inj (known.symm.trans known')
      exact absurd (found.symm.trans dead) (Option.some_ne_none e)
  · rintro ⟨e, mem, rfl, handed⟩
    obtain ⟨k', found⟩ := inv.mem_live.mp mem
    obtain rfl := Option.some.inj (handed.symm.trans (inv.keys.live k' e found))
    exact ⟨inv.ids.live k e found, e, found⟩

theorem Inv.hasSeen_iff (id : CorrelationId) :
    t.store.hasSeen id = true ↔
      (∃ e ∈ t.ledger.live, e.id = id) ∨ id ∈ t.ledger.remembered cap := by
  rw [Store.hasSeen, Option.isSome_iff_exists, ← inv.ids.retired]
  constructor
  · rintro ⟨k, known⟩
    refine (inv.ids.known id k known).imp_left ?_
    rintro ⟨e, found, named⟩
    exact ⟨e, inv.mem_live.mpr ⟨k, found⟩, named⟩
  · rintro (⟨e, mem, rfl⟩ | old)
    · obtain ⟨k, found⟩ := inv.mem_live.mp mem
      exact ⟨k, inv.ids.live k e found⟩
    · obtain ⟨k, -, known, -⟩ := inv.ids.remembered id old
      exact ⟨k, known⟩

theorem Inv.evict_eq (k : Key) :
    (t.store.evict k).1 = (t.ledger.evict k (t.number k)).1 := by
  rcases inv.evict_cases k with ⟨v, refused, refused'⟩ | ⟨e, p, -, -, evicted, evicted'⟩
  · rw [refused, refused']
  · rw [evicted, evicted']

theorem Inv.evict_refused {v : EvictionViolation} (refused : (t.store.evict k).1 = .error v) :
    (t.store.evict k).2 = t.store := by
  rcases inv.evict_cases k with ⟨v', unchanged, -⟩ | ⟨e, p, -, -, evicted, -⟩
  · rw [unchanged]
  · rw [evicted] at refused
    exact absurd refused (by simp)

theorem Inv.agrees : Agrees cap t where
  entries := inv.live
  keys := inv.sound.keys_entries
  issued := inv.order_issued
  size := by rw [← inv.live, List.length_map, inv.sound.length_entries]
  entryAt p := (inv.getElem?_live p).symm
  increasing := List.pairwise_map.mp inv.increasing
  next := ⟨inv.next, inv.count⟩
  get n k handed := inv.number_eq handed ▸ inv.get?_eq k
  contains n k handed := by rw [Store.contains, inv.get?_eq, inv.number_eq handed]
  get_other k other := inv.get?_of_not_issued other
  position n k handed := inv.number_eq handed ▸ inv.positionOf?_eq k
  position_iff k p := inv.sound.positionOf?_eq_some
  ids := inv.ids_nodup
  keyOf := inv.keyOf?_iff
  seen := inv.hasSeen_iff
  evict n k handed := inv.number_eq handed ▸ inv.evict_eq k
  evict_other k other := by rw [Store.evict, inv.get?_of_not_issued other]
  refused k v := inv.evict_refused

end Agreement

/-- After any run the store answers as the ledger does, and a key handed out whose entry is gone finds
nothing however the run goes on. -/
theorem agrees_of_run (run : Run (start cap) t)
    (few : t.ledger.gone.length < generationLimit) :
    Agrees cap t ∧
    ∀ t', Run t t' → t'.ledger.gone.length < generationLimit →
      ∀ k ∈ t.issued, t.store.get? k = none → t'.store.get? k = none := by
  obtain ⟨inv, -⟩ := (inv_start cap).run run few
  refine ⟨inv.agrees, fun t' later few' k handed gone => ?_⟩
  exact ((inv.run later few').2 k handed gone).2

/-- An entry has been evicted. -/
def freed : Tandem :=
  ((start 1).append (.producer "a") (.thought "") .completed 0).evict ⟨0, 0⟩

/-- Its slot is used again, for another entry. -/
def reused : Tandem := freed.append (.producer "b") (.thought "") .running 0

theorem agrees_of_run_reused :
    reused.issued = [⟨0, 0⟩, ⟨0, 1⟩] ∧ Agrees 1 freed ∧ reused.store.get? ⟨0, 0⟩ = none := by
  have run : Run (start 1) freed :=
    (Relation.ReflTransGen.single (.append _ _ _ _ (by decide))).tail (.evict ⟨0, 0⟩)
  have later : Run freed reused := .single (.append _ _ _ _ (by decide +kernel))
  obtain ⟨agrees, stays_gone⟩ := agrees_of_run run (by decide +kernel)
  refine ⟨by decide +kernel, agrees, ?_⟩
  exact stays_gone reused later (by decide +kernel) ⟨0, 0⟩ (by decide +kernel) (by decide +kernel)

end Tandem

end Chronicle
