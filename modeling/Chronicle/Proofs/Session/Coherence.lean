import Chronicle.Proofs.Session.Changes

/-!
# Status, kind and times in a session

Whatever is done to a session, each entry has a status that goes with its kind, and an end time exactly
when it is finished; at most one thought is open, it is the last entry, and the correlator has exactly its
key in the list of open thoughts (`coherent_run`).

All of it is `Log.Coherent` seen along the order of the entries.
-/

namespace Chronicle

namespace Store

variable {s : Store} {k : Key} {e : Entry}

/-- The thoughts to which more may be added, under their keys. -/
def openEntries (s : Store) : List (Key × Entry) := s.entries.filter fun ke => ke.2.isOpen

/-- The entry with the number given last stands last. -/
theorem Sound.getLast?_entries (sound : s.Sound) (found : s.get? k = some e)
    (last : e.sequence + 1 = s.nextSequence) : s.entries.getLast? = some (k, e) := by
  obtain ⟨p, at_p⟩ := sound.exists_position found
  obtain ⟨lt, -⟩ := List.getElem?_eq_some_iff.mp at_p
  have none_after : ¬ p + 1 < s.entries.length := by
    intro more
    obtain ⟨⟨k', e'⟩, at_next⟩ : ∃ ke, s.entries[p + 1]? = some ke :=
      ⟨_, List.getElem?_eq_getElem more⟩
    have grows := (sound.sequence_lt_iff at_p at_next).mpr (Nat.lt_succ_self p)
    have below := sound.below e'.sequence
      (List.mem_map.mpr ⟨_, List.mem_of_getElem? at_next, rfl⟩)
    omega
  rw [List.getLast?_eq_getElem?, show s.entries.length - 1 = p by omega, at_p]

end Store

namespace Log

variable {l : Log}

/-- The open thoughts of the order are those that are listed. -/
theorem Coherent.openThoughts_eq_map (holds : l.Coherent) :
    l.correlator.openThoughts = l.store.openEntries.map (·.1) := by
  have mem (k : Key) : k ∈ l.correlator.openThoughts ↔ k ∈ l.store.openEntries.map (·.1) := by
    rw [holds.thoughts k]
    simp [Store.openEntries, holds.sound.mem_entries]
  have nodup : (l.store.openEntries.map (·.1)).Nodup := by
    have sublist : (l.store.openEntries.map (·.1)).Sublist (l.store.entries.map (·.1)) :=
      List.filter_sublist.map _
    rw [holds.sound.keys_entries] at sublist
    exact holds.sound.order_nodup.sublist sublist
  rcases holds.openThoughts_cases with none | ⟨k, one⟩
  · rw [none] at mem ⊢
    exact (List.nil_perm.mp ((List.perm_ext_iff_of_nodup .nil nodup).mpr mem)).symm
  · rw [one] at mem ⊢
    exact List.singleton_perm.mp ((List.perm_ext_iff_of_nodup (List.nodup_singleton k) nodup).mpr mem)

end Log

namespace Session

/-- The entries are coherent, and so is what is known of the open thoughts. -/
structure IsCoherent (s : Session) : Prop where
  entries : ∀ ke ∈ s.store.entries, ke.2.Coherent
  single : s.store.openEntries.length ≤ 1
  last : ∀ ke ∈ s.store.openEntries,
    s.store.entries.getLast? = some ke ∧ ke.2.sequence + 1 = s.store.nextSequence
  listed : s.correlator.openThoughts = s.store.openEntries.map (·.1)

/-- Every state that is reached is coherent. -/
theorem coherent_run (c : Config) (actions : List Action) :
    ((start c).run actions).IsCoherent := by
  have holds := coherent_log_run (coherent_log_start c) actions
  generalize (start c).run actions = s at holds
  have listed : s.correlator.openThoughts = s.store.openEntries.map (·.1) :=
    holds.openThoughts_eq_map
  refine ⟨fun ⟨k, e⟩ mem => ?_, ?_, fun ⟨k, e⟩ mem => ?_, listed⟩
  · exact holds.entries k e (holds.sound.mem_entries.mp mem)
  · have single : s.correlator.openThoughts.length ≤ 1 := holds.single
    rwa [listed, List.length_map] at single
  · obtain ⟨mem, opened⟩ := List.mem_filter.mp mem
    have found := holds.sound.mem_entries.mp mem
    have last := holds.last k e found opened
    exact ⟨holds.sound.getLast?_entries found last, last⟩

end Session

end Chronicle
