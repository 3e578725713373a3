import Chronicle.Proofs.Store.Flags
import Chronicle.Session.Eviction

/-!
# Evicting in a session

An eviction is refused and changes nothing, or takes one finished entry out of a session that is live
(`evict_cases`).  Enforcing the history cap is a run of evictions, after which the window and the
search results are brought up to date (`enforceHistoryCap_cases`); the positions it collects are those
of the entries that have gone (`evictAll_removed`), each once (`victims_positions`).
-/

namespace Chronicle

namespace Session

variable {s : Session} {k : Key} {p : Nat}

/-- A session without the entry of a key. -/
def without (s : Session) (k : Key) (p : Nat) (id : CorrelationId) : Session :=
  { s with
    store := s.store.without k p id
    tokens := s.tokens.release k
    counters := { s.counters with evicted := s.counters.evicted + 1 } }

theorem evict_cases (sound : s.store.Sound) (k : Key) :
    (∃ v, s.evict k = (.error v, s)) ∨
    ∃ e p, s.fork.isForked = false ∧ s.store.get? k = some e ∧ e.status.isFinished = true ∧
      e.discarded = false ∧ s.store.keyAt? p = some k ∧ s.evict k = (.ok e, s.without k p e.id) := by
  rw [evict]
  split
  · exact .inl ⟨_, rfl⟩
  · next live =>
      split
      · exact .inl ⟨_, rfl⟩
      · rcases sound.evict_cases k with ⟨v, refused⟩ | ⟨e, p, found, finished, kept, at_p, evicted⟩
        · rw [refused]
          exact .inl ⟨v, rfl⟩
        · rw [evicted]
          exact .inr ⟨e, p, by simpa using live, found, finished, kept, at_p, rfl⟩

/-- Whatever the outcome, only the store, the tokens and the count of evictions change. -/
theorem evict_frame (s : Session) (k : Key) :
    ∃ store tokens evicted, (s.evict k).2 =
      { s with store, tokens, counters := { s.counters with evicted } } := by
  rw [evict]
  split
  · exact ⟨_, _, _, rfl⟩
  · split
    · exact ⟨_, _, _, rfl⟩
    · split <;> exact ⟨_, _, _, rfl⟩

theorem sound_evict (sound : s.store.Sound) (k : Key) : (s.evict k).2.store.Sound := by
  have kept := sound.evict k
  simp only [evict]
  split
  · exact sound
  · split
    · exact sound
    · split
      · next same =>
          rw [same] at kept
          exact kept
      · next same =>
          rw [same] at kept
          exact kept

/-! ## The history cap -/

/-- The victims one after the other. -/
def evictAll (s : Session) (victims : List (Nat × Key)) : List Nat × Session :=
  victims.foldl evictVictim ([], s)

theorem evictVictim_snd (state : List Nat × Session) (victim : Nat × Key) :
    (evictVictim state victim).2 = (state.2.evict victim.2).2 := by
  rw [evictVictim]
  split
  · next same => rw [same]
  · next same => rw [same]

/-- What one eviction preserves, a run of them preserves. -/
theorem evictAll_induct {motive : Session → Prop} (start : motive s)
    (step : ∀ s k, motive s → motive (s.evict k).2) (victims : List (Nat × Key)) :
    motive (s.evictAll victims).2 := by
  refine List.foldlRecOn (motive := fun state : List Nat × Session => motive state.2) victims
    evictVictim start ?_
  intro state holds victim _
  exact evictVictim_snd state victim ▸ step state.2 victim.2 holds

theorem sound_evictAll (sound : s.store.Sound) (victims : List (Nat × Key)) :
    (s.evictAll victims).2.store.Sound :=
  evictAll_induct (motive := fun s => s.store.Sound) sound (fun _ k sound => sound_evict sound k) _

theorem evictAll_frame (s : Session) (victims : List (Nat × Key)) :
    ∃ store tokens evicted, (s.evictAll victims).2 =
      { s with store, tokens, counters := { s.counters with evicted } } := by
  refine evictAll_induct (motive := fun s' => ∃ store tokens evicted, s' =
    { s with store, tokens, counters := { s.counters with evicted } }) ⟨_, _, _, rfl⟩ ?_ victims
  rintro s' k ⟨store, tokens, evicted, rfl⟩
  exact evict_frame { s with store, tokens, counters := { s.counters with evicted } } k

theorem size_without (at_p : s.store.keyAt? p = some k) (id : CorrelationId) :
    (s.without k p id).size + 1 = s.size :=
  Store.size_without at_p id

/-- A run of evictions collects the positions of those victims that have gone, and counts them. -/
theorem foldl_evictVictim (sound : s.store.Sound) (victims : List (Nat × Key))
    (removed : List Nat) :
    ∃ gone, (victims.foldl evictVictim (removed, s)).1 = removed ++ gone ∧
      gone.Sublist (victims.map (·.1)) ∧
      (victims.foldl evictVictim (removed, s)).2.size + gone.length = s.size ∧
      (victims.foldl evictVictim (removed, s)).2.counters.evicted =
        s.counters.evicted + gone.length ∧
      (gone = [] → (victims.foldl evictVictim (removed, s)).2 = s) := by
  induction victims generalizing s removed with
  | nil => exact ⟨[], (List.append_nil _).symm, .slnil, rfl, rfl, fun _ => rfl⟩
  | cons victim victims ih =>
      rcases evict_cases sound victim.2 with
        ⟨v, refused⟩ | ⟨e, p, -, -, -, -, at_p, evicted⟩
      · have next : evictVictim (removed, s) victim = (removed, s) := by
          rw [evictVictim, refused]
        obtain ⟨gone, collected, sublist, rest⟩ := ih sound removed
        rw [List.foldl_cons, next]
        exact ⟨gone, collected, sublist.cons _, rest⟩
      · have next : evictVictim (removed, s) victim =
            (removed ++ [victim.1], s.without victim.2 p e.id) := by
          rw [evictVictim, evicted]
        obtain ⟨gone, collected, sublist, size, count, -⟩ :=
          ih (s := s.without victim.2 p e.id) (sound.without at_p e.id) (removed ++ [victim.1])
        rw [List.foldl_cons, next]
        refine ⟨victim.1 :: gone, by simpa using collected, sublist.cons_cons _, ?_, ?_,
          fun none => absurd none (by simp)⟩
        · have one := size_without at_p e.id
          rw [List.length_cons]
          omega
        · rw [count, List.length_cons]
          exact Nat.add_right_comm _ _ _

/-- The positions collected are those of victims that have gone. -/
theorem evictAll_removed (sound : s.store.Sound) (victims : List (Nat × Key)) :
    (s.evictAll victims).1.Sublist (victims.map (·.1)) ∧
      (s.evictAll victims).2.size + (s.evictAll victims).1.length = s.size := by
  obtain ⟨gone, collected, sublist, size, -⟩ := foldl_evictVictim sound victims []
  rw [List.nil_append] at collected
  rw [evictAll, collected]
  exact ⟨sublist, size⟩

/-- Each victim that has gone is counted, and if none has gone nothing has changed. -/
theorem evictAll_counted (sound : s.store.Sound) (victims : List (Nat × Key)) :
    (s.evictAll victims).2.counters.evicted =
        s.counters.evicted + (s.evictAll victims).1.length ∧
      ((s.evictAll victims).1 = [] → (s.evictAll victims).2 = s) := by
  obtain ⟨gone, collected, -, -, counted⟩ := foldl_evictVictim sound victims []
  rw [List.nil_append] at collected
  rw [evictAll, collected]
  exact counted

/-- Evictions give no number to a new entry. -/
theorem nextSequence_evictAll (sound : s.store.Sound) (victims : List (Nat × Key)) :
    (s.evictAll victims).2.store.nextSequence = s.store.nextSequence := by
  refine (evictAll_induct
    (motive := fun s' => s'.store.Sound ∧ s'.store.nextSequence = s.store.nextSequence)
    ⟨sound, rfl⟩ ?_ victims).2
  rintro s' k ⟨sound, same⟩
  refine ⟨sound_evict sound k, ?_⟩
  rcases evict_cases sound k with ⟨v, refused⟩ | ⟨e, p, -, -, -, -, at_p, evicted⟩
  · rw [refused]
    exact same
  · rw [evicted]
    exact (Store.nextSequence_without _ _ _ _).trans same

/-- The victims stand at different positions of the timeline. -/
theorem victims_positions (s : Session) :
    (s.victims.map (·.1)).Nodup ∧ ∀ p ∈ s.victims.map (·.1), p < s.store.entries.length := by
  have sublist : (s.victims.map (·.1)).Sublist (List.range' 0 s.store.entries.length) := by
    rw [← List.zipIdx_map_snd 0 s.store.entries]
    rw [victims]
    rw [List.map_map]
    exact ((List.take_sublist _ _).trans List.filter_sublist).map _
  refine ⟨sublist.nodup List.nodup_range', fun p mem => ?_⟩
  simpa using sublist.subset mem

theorem enforceHistoryCap_cases (s : Session) :
    s.enforceHistoryCap = (0, s) ∨
    s.exceedsCap = true ∧
      (((s.evictAll s.victims).1 = [] ∧ s.enforceHistoryCap = (0, (s.evictAll s.victims).2)) ∨
       (s.evictAll s.victims).1 ≠ [] ∧ s.enforceHistoryCap = ((s.evictAll s.victims).1.length,
        ((s.evictAll s.victims).2.moveWindow fun v len =>
          v.onEvicted (s.evictAll s.victims).1 len).refreshSearch)) := by
  rw [enforceHistoryCap]
  split
  · next exceeds =>
      refine .inr ⟨exceeds, ?_⟩
      rw [show s.victims.foldl evictVictim ([], s) = s.evictAll s.victims from rfl]
      simp only
      split
      · next none => exact .inl ⟨List.isEmpty_iff.mp none, rfl⟩
      · next some_gone => exact .inr ⟨fun none => some_gone (List.isEmpty_iff.mpr none), rfl⟩
  · exact .inl rfl

/-- Enforcing the cap leaves the fork, the correlator and all that is not about the entries alone, and
of the counters it changes one. -/
theorem enforceHistoryCap_frame (s : Session) :
    ∃ store tokens evicted viewport search, s.enforceHistoryCap.2 =
      { s with store, tokens, viewport, search, counters := { s.counters with evicted } } := by
  obtain ⟨store, tokens, evicted, all⟩ := evictAll_frame s s.victims
  rcases enforceHistoryCap_cases s with same | ⟨-, ⟨-, same⟩ | ⟨-, same⟩⟩
  · exact ⟨_, _, _, _, _, congrArg Prod.snd same⟩
  · rw [same, all]
    exact ⟨_, _, _, _, _, rfl⟩
  · rw [same]
    simp only
    rw [all]
    exact ⟨_, _, _, _, _, rfl⟩

end Session

end Chronicle
