import Chronicle.Proofs.Store.Sound
import Chronicle.Proofs.Text
import Chronicle.Search

/-!
# What a search has found

A search remembers the keys of the entries it has found.  `Search.Fresh` says that these are the entries
of a store that contain the query now, in order, and that the cursor is on one of them.  Looking makes a
search fresh (`fresh_refresh`), and it stays so in another store exactly while the same entries contain
the query there (`hitsIn_eq_iff`).
-/

namespace Chronicle

namespace Search

variable {q : Search} {s s' : Store} {query : String} {k : Key}

/-- What a search is to have found. -/
def sought (q : Search) (s : Store) : List Key := if q.isActive then hitsIn s q.query else []

structure Fresh (q : Search) (s : Store) : Prop where
  hits : q.hits = q.sought s
  cursor : ∀ i, q.cursor = some i → i < q.hits.length

theorem fresh_empty (s : Store) : Search.empty.Fresh s where
  hits := rfl
  cursor i at_i := absurd at_i (by simp [Search.empty])

/-- Looking again makes a search fresh, whatever it was. -/
theorem fresh_refresh (q : Search) (s : Store) : (q.refresh s).Fresh s := by
  rw [refresh]
  split
  · next active =>
      refine ⟨(if_pos active).symm, fun i at_i => ?_⟩
      obtain ⟨k, -, found⟩ := Option.bind_eq_some_iff.mp at_i
      exact (List.findIdx?_eq_some_iff_getElem.mp found).1
  · next idle =>
      exact ⟨(if_neg idle).symm, fun i at_i => absurd at_i (by simp)⟩

/-- An empty query is contained in everything. -/
theorem finds_of_not_isActive (idle : q.isActive = false) (e : Entry) : finds q.query e = true := by
  have empty : q.query = "" := by simpa [isActive] using idle
  rw [finds, empty, Text.occursIn_iff]
  exact List.nil_infix

/-! ## The entries that contain a query -/

theorem mem_hitsIn (sound : s.Sound) :
    k ∈ hitsIn s query ↔ ∃ e, s.get? k = some e ∧ finds query e = true := by
  rw [hitsIn, List.mem_map]
  constructor
  · rintro ⟨⟨k, e⟩, mem, rfl⟩
    obtain ⟨mem, found⟩ := List.mem_filter.mp mem
    exact ⟨e, sound.mem_entries.mp mem, found⟩
  · rintro ⟨e, live, found⟩
    exact ⟨(k, e), List.mem_filter.mpr ⟨sound.mem_entries.mpr live, found⟩, rfl⟩

/-- What a fresh search has found is there. -/
theorem Fresh.contains (fresh : q.Fresh s) (sound : s.Sound) (mem : k ∈ q.hits) :
    s.contains k = true := by
  rw [fresh.hits, sought] at mem
  split at mem
  · obtain ⟨e, live, -⟩ := (mem_hitsIn sound).mp mem
    rw [Store.contains, live]
    rfl
  · exact absurd mem List.not_mem_nil

theorem hitsIn_eq_filter (sound : s.Sound) (query : String) :
    hitsIn s query = s.order.filter fun k => (s.get? k).any (finds query) := by
  rw [hitsIn, sound.entries_eq, List.filter_map, List.map_map]
  refine (List.map_id _).trans (List.filter_congr fun k mem => ?_)
  obtain ⟨e, found⟩ := (sound.live k).mpr mem
  simp [found]

/-- Two stores with the same keys have the same hits exactly if each key finds the query in both or in
neither. -/
theorem hitsIn_eq_iff (sound : s.Sound) (sound' : s'.Sound) (order : s'.order = s.order) :
    hitsIn s' query = hitsIn s query ↔
      ∀ k e e', s.get? k = some e → s'.get? k = some e' → finds query e' = finds query e := by
  constructor
  · intro same k e e' found found'
    have listed : k ∈ hitsIn s' query ↔ k ∈ hitsIn s query := by rw [same]
    rw [mem_hitsIn sound, mem_hitsIn sound'] at listed
    simp only [found, found', Option.some.injEq, exists_eq_left'] at listed
    exact Bool.eq_iff_iff.mpr listed
  · intro same
    rw [hitsIn_eq_filter sound, hitsIn_eq_filter sound', order]
    refine List.filter_congr fun k mem => ?_
    obtain ⟨e, found⟩ := (sound.live k).mpr mem
    obtain ⟨e', found'⟩ := (sound'.live k).mpr (order ▸ mem)
    rw [found, found', Option.any_some, Option.any_some]
    exact same k e e' found found'

end Search

end Chronicle
