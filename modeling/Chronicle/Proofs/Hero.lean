import Chronicle.Hero
import Chronicle.Proofs.Store.Latest

/-!
# Which entry is the hero

`Store.IsHero` says what the hero is without a search: of the entries that run, the one with the highest
number.  The search through the positions from the end finds it, and where it stands
(`heroAt?_eq_some`).
-/

namespace Chronicle

namespace Store

variable {s : Store} {k : Key} {e : Entry}

/-- The running entry with the highest number. -/
abbrev IsHero (s : Store) (k : Key) (e : Entry) : Prop := s.IsLatest (·.isRunning = true) k e

/-- The last running entry, at its position. -/
def heroAt? (s : Store) : Option ((Key × Entry) × Nat) :=
  s.entries.zipIdx.reverse.find? fun kep => kep.1.2.isRunning

theorem candidate?_eq (s : Store) :
    Hero.candidate? s = s.heroAt?.map fun kep => (kep.1.1, kep.2) := rfl

theorem heroAt?_eq_none : s.heroAt? = none ↔ ∀ ke ∈ s.entries, ke.2.isRunning = false := by
  rw [heroAt?, List.find?_eq_none]
  constructor
  · intro none_runs ke mem
    obtain ⟨p, at_p⟩ := List.getElem?_of_mem mem
    have indexed : (ke, p) ∈ s.entries.zipIdx := List.mk_mem_zipIdx_iff_getElem?.mpr at_p
    exact Bool.eq_false_iff.mpr (none_runs _ (List.mem_reverse.mpr indexed))
  · intro none_runs kep mem
    have at_p := List.mem_zipIdx_iff_getElem?.mp (List.mem_reverse.mp mem)
    exact Bool.eq_false_iff.mp (none_runs kep.1 (List.mem_of_getElem? at_p))

theorem isHero_of_heroAt? (sound : s.Sound) {kep : (Key × Entry) × Nat}
    (last : s.heroAt? = some kep) :
    s.entries[kep.2]? = some kep.1 ∧ s.IsHero kep.1.1 kep.1.2 := by
  obtain ⟨running, after, before, split, none_after⟩ := List.find?_eq_some_iff_append.mp last
  have indexed : s.entries.zipIdx = before.reverse ++ kep :: after.reverse := by
    rw [← List.reverse_reverse s.entries.zipIdx, split]
    simp
  refine ⟨List.mem_zipIdx_iff_getElem?.mp (by simp [indexed]),
    sound.isLatest_of_split (before.reverse.map (·.1)) (after.reverse.map (·.1)) ?_ running
      fun ke mem => ?_⟩
  · rw [← List.zipIdx_map_fst 0 s.entries, indexed, List.map_append, List.map_cons]
  · obtain ⟨kep', later, rfl⟩ := List.mem_map.mp mem
    simpa using none_after kep' (List.mem_reverse.mp later)

theorem heroAt?_eq_some (sound : s.Sound) {p : Nat} :
    s.heroAt? = some ((k, e), p) ↔ s.entries[p]? = some (k, e) ∧ s.IsHero k e := by
  refine ⟨isHero_of_heroAt? sound, fun ⟨at_p, hero⟩ => ?_⟩
  cases last : s.heroAt? with
  | none => exact absurd hero.holds (by simp [heroAt?_eq_none.mp last _ hero.mem])
  | some kep =>
      obtain ⟨ke, q⟩ := kep
      obtain ⟨at_q, hero'⟩ := isHero_of_heroAt? sound last
      obtain rfl : ke = (k, e) := hero'.unique sound hero
      have not_lt := sound.sequence_lt_iff at_p at_q
      have not_gt := sound.sequence_lt_iff at_q at_p
      rw [show q = p by omega]

end Store

namespace Hero

theorem key?_placement (s : Store) (v : Viewport) (f : Fork) :
    (placement s v f).key? = s.heroAt?.map (·.1.1) := by
  rw [placement, Store.candidate?_eq]
  cases s.heroAt? with
  | none => rfl
  | some kep =>
      simp only [Option.map_some]
      split
      · rfl
      · split <;> rfl

end Hero

end Chronicle
