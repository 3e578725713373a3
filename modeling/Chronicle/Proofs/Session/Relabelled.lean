import Chronicle.Proofs.Correlator.Relabelled
import Chronicle.Session.Handling

/-!
# A session under other ids

Entries may have other ids, and a message is handled as it was (`handle_relabel`): with the same answer, the same
counters, the same evictions and the same hits, and it leaves what it left, under the other ids.  The only
id that has to stay is the one that the message is about.
-/

namespace Chronicle

theorem Search.refresh_relabel (q : Search) (r : Relabel) (s : Store) :
    q.refresh (s.relabel r) = q.refresh s := by
  have hits : ∀ query, hitsIn (s.relabel r) query = hitsIn s query := by
    intro query
    rw [hitsIn, hitsIn, Store.entries_relabel, List.filter_map, List.map_map]
    rfl
  rw [refresh, refresh, hits]

theorem Hero.candidate?_relabel (r : Relabel) (s : Store) :
    candidate? (s.relabel r) = candidate? s := by
  rw [candidate?, candidate?, Store.entries_relabel, List.zipIdx_map, ← List.map_reverse,
    List.find?_map, Option.map_map]
  rfl

namespace Session

variable (r : Relabel) (keeps : ∀ b, r.flag b = b) (s : Session)

def relabel (r : Relabel) (s : Session) : Session := { s with store := s.store.relabel r }

theorem refreshSearch_relabel : (s.relabel r).refreshSearch = s.refreshSearch.relabel r := by
  rw [refreshSearch, show (s.relabel r).search.refresh (s.relabel r).store = s.search.refresh s.store
    from s.search.refresh_relabel r s.store]
  rfl

include keeps

/-! ## Evicting -/

theorem evict_relabel (k : Key) :
    (s.relabel r).evict k = ((s.evict k).1.map (Entry.relabel r), (s.evict k).2.relabel r) := by
  have hero : Hero.candidate? (s.relabel r).store = Hero.candidate? s.store :=
    Hero.candidate?_relabel r s.store
  have evicted : (s.relabel r).store.evict k =
      ((s.store.evict k).1.map (Entry.relabel r), (s.store.evict k).2.relabel r) :=
    s.store.evict_relabel r keeps k
  have fork : (s.relabel r).fork = s.fork := rfl
  rw [Session.evict, Session.evict, hero, evicted, fork]
  split
  · rfl
  · split
    · rfl
    · rcases s.store.evict k with ⟨e | e, store⟩ <;> rfl

theorem victims_relabel : (s.relabel r).victims = s.victims := by
  have entries : (s.relabel r).store.entries =
      s.store.entries.map fun ke => (ke.1, ke.2.relabel r) := s.store.entries_relabel r
  have size : (s.relabel r).size - (s.relabel r).historyCap = s.size - s.historyCap := rfl
  simp only [victims, entries, size, List.zipIdx_map, List.filter_map, ← List.map_take, List.map_map]
  have same : (fun kep : (Key × Entry) × Nat =>
      (kep.1.2.relabel r).status.isFinished && !(kep.1.2.relabel r).discarded) =
      fun kep => kep.1.2.status.isFinished && !kep.1.2.discarded := by
    funext kep
    simp only [Entry.relabel, keeps]
  exact congrArg (fun p => ((s.store.entries.zipIdx.filter p).take (s.size - s.historyCap)).map
    fun kep => (kep.2, kep.1.1)) same

theorem foldl_evictVictim_relabel (victims : List (Nat × Key)) (removed : List Nat) :
    victims.foldl evictVictim (removed, s.relabel r) =
      ((victims.foldl evictVictim (removed, s)).1,
        (victims.foldl evictVictim (removed, s)).2.relabel r) := by
  induction victims generalizing s removed with
  | nil => rfl
  | cons victim victims ih =>
      have first : evictVictim (removed, s.relabel r) victim =
          ((evictVictim (removed, s) victim).1, (evictVictim (removed, s) victim).2.relabel r) := by
        simp only [evictVictim, evict_relabel r keeps]
        rcases s.evict victim.2 with ⟨e | e, s'⟩ <;> rfl
      rw [List.foldl_cons, List.foldl_cons, first, ih]

theorem enforceHistoryCap_relabel :
    (s.relabel r).enforceHistoryCap = (s.enforceHistoryCap.1, s.enforceHistoryCap.2.relabel r) := by
  have exceeds : (s.relabel r).exceedsCap = s.exceedsCap := rfl
  simp only [enforceHistoryCap, exceeds, victims_relabel r keeps, foldl_evictVictim_relabel r keeps]
  generalize s.victims.foldl evictVictim ([], s) = evicted
  obtain ⟨removed, s'⟩ := evicted
  split
  · split
    · rfl
    · exact Prod.ext rfl (refreshSearch_relabel r (s'.moveWindow fun v len => v.onEvicted removed len))
  · rfl

/-! ## Messages -/

theorem afterAppend_relabel (k : Key) : (s.relabel r).afterAppend k = (s.afterAppend k).relabel r := by
  have marked : (s.relabel r).fork.markAppended (s.relabel r).store k =
      (s.fork.markAppended s.store k).relabel r := Fork.markAppended_relabel r keeps s.fork s.store k
  rw [afterAppend, afterAppend, marked]
  have trimmed := enforceHistoryCap_relabel r keeps
    ({ s with store := s.fork.markAppended s.store k }.moveWindow Viewport.onAppend)
  exact (congrArg (·.2.refreshSearch) trimmed).trans (refreshSearch_relabel r _)

theorem afterOutcome_relabel (outcome : Outcome) :
    (s.relabel r).afterOutcome outcome =
      ((s.afterOutcome outcome).1, (s.afterOutcome outcome).2.relabel r) := by
  cases outcome with
  | appended k => exact Prod.ext rfl (afterAppend_relabel r keeps s k)
  | finished k => rfl
  | updated k => rfl
  | confirmed k => rfl
  | ignored => rfl

theorem ingest_relabel {m : Message} {now : Instant}
    (fixed : ∀ id, m.id? = some id → r.id id = id)
    (kept : m.id? = none → ∀ sort,
      r.id (.mint sort s.store.nextSequence) = .mint sort s.store.nextSequence) :
    (s.relabel r).ingest m now = ((s.ingest m now).1, (s.ingest m now).2.relabel r) := by
  obtain ⟨alike, correlator, store⟩ := s.correlator.apply_relabels r s.store now m fixed kept
  have ingested : (s.relabel r).correlator.apply (s.relabel r).store m now =
      s.correlator.apply (s.store.relabel r) m now := rfl
  rw [ingest, ingest, ingested]
  generalize s.correlator.apply s.store m now = x at alike correlator store
  generalize s.correlator.apply (s.store.relabel r) m now = x' at alike correlator store
  obtain ⟨result, c, store₁⟩ := x
  obtain ⟨result', c', store'⟩ := x'
  obtain rfl : c' = c := correlator
  obtain rfl : store' = store₁.relabel r := store
  cases alike with
  | same =>
      cases result with
      | error e => rfl
      | ok outcome =>
          exact afterOutcome_relabel r keeps { s with correlator := c', store := store₁ } outcome
  | duplicate id label => rfl
  | notRunning id label => rfl
  | notTool id label => rfl

/-- A message is handled as if entries had other ids, as long as the id that it is about stays. -/
theorem handle_relabel {m : Message} {now : Instant} (producers : ∀ c, m ≠ .command c)
    (fixed : ∀ id, m.id? = some id → r.id id = id)
    (kept : m.id? = none → ∀ sort,
      r.id (.mint sort s.store.nextSequence) = .mint sort s.store.nextSequence) :
    (s.relabel r).handle m now = ((s.handle m now).1, (s.handle m now).2.relabel r) := by
  cases m with
  | command c => exact absurd rfl (producers c)
  | connectionError reason => rfl
  | connectionRestored =>
      have connection : (s.relabel r).connection = s.connection := rfl
      simp only [handle, reconnect, connection]
      split <;> rfl
  | _ => exact ingest_relabel r keeps s fixed kept

end Session

end Chronicle
