import Chronicle.Proofs.Store.Position

/-!
# The latest of some entries

`Store.IsLatest p` names, of the entries with a property `p`, the one with the highest number.  There is
one if any entry has the property (`Sound.exists_isLatest`), there is only one (`IsLatest.unique`), and
whoever goes through the entries from the end comes to it first (`Sound.isLatest_of_split`), since the
numbers grow along the order.
-/

namespace Chronicle

namespace Store

variable {s : Store} {p : Entry → Prop} {k k' : Key} {e e' : Entry}

/-- It has the property, and no entry with the property has a higher number. -/
structure IsLatest (s : Store) (p : Entry → Prop) (k : Key) (e : Entry) : Prop where
  mem : (k, e) ∈ s.entries
  holds : p e
  highest : ∀ ke ∈ s.entries, p ke.2 → ke.2.sequence ≤ e.sequence

theorem IsLatest.unique (sound : s.Sound) (latest : s.IsLatest p k e) (latest' : s.IsLatest p k' e') :
    (k, e) = (k', e') := by
  have found := sound.mem_entries.mp latest.mem
  have found' := sound.mem_entries.mp latest'.mem
  have same : e.sequence = e'.sequence :=
    Nat.le_antisymm (latest'.highest _ latest.mem latest.holds)
      (latest.highest _ latest'.mem latest'.holds)
  obtain rfl := sound.key_of_sequence found found' same
  rw [Option.some.inj (found.symm.trans found')]

/-- Which entry is the latest depends on nothing but on which entries have the property. -/
theorem IsLatest.congr {s' : Store} {q : Entry → Prop}
    (same : ∀ ke, ke ∈ s.entries ∧ p ke.2 ↔ ke ∈ s'.entries ∧ q ke.2) :
    s.IsLatest p k e ↔ s'.IsLatest q k e := by
  constructor
  · rintro ⟨mem, holds, highest⟩
    obtain ⟨mem', holds'⟩ := (same (k, e)).mp ⟨mem, holds⟩
    refine ⟨mem', holds', fun ke mem has => ?_⟩
    obtain ⟨mem, has⟩ := (same ke).mpr ⟨mem, has⟩
    exact highest ke mem has
  · rintro ⟨mem, holds, highest⟩
    obtain ⟨mem', holds'⟩ := (same (k, e)).mpr ⟨mem, holds⟩
    refine ⟨mem', holds', fun ke mem has => ?_⟩
    obtain ⟨mem, has⟩ := (same ke).mp ⟨mem, has⟩
    exact highest ke mem has

/-- An entry with the property after which no other has it is the latest one. -/
theorem Sound.isLatest_of_split (sound : s.Sound) (before after : List (Key × Entry))
    (split : s.entries = before ++ (k, e) :: after) (holds : p e)
    (none_after : ∀ ke ∈ after, ¬ p ke.2) : s.IsLatest p k e := by
  have increasing := sound.entries_increasing
  rw [split] at increasing
  refine ⟨by simp [split], holds, fun ke mem has => ?_⟩
  rw [split, List.mem_append, List.mem_cons] at mem
  rcases mem with earlier | rfl | later
  · exact Nat.le_of_lt ((List.pairwise_append.mp increasing).2.2 ke earlier _ List.mem_cons_self)
  · exact Nat.le_refl _
  · exact absurd has (none_after ke later)

theorem Sound.exists_isLatest (sound : s.Sound) (exists_one : ∃ ke ∈ s.entries, p ke.2) :
    ∃ k e, s.IsLatest p k e := by
  classical
  obtain ⟨ke, mem, has⟩ := exists_one
  have found : (s.entries.reverse.find? fun ke => p ke.2).isSome = true :=
    List.find?_isSome.mpr ⟨ke, List.mem_reverse.mpr mem, decide_eq_true has⟩
  obtain ⟨⟨k, e⟩, first⟩ := Option.isSome_iff_exists.mp found
  obtain ⟨holds, after, before, split, none_after⟩ := List.find?_eq_some_iff_append.mp first
  refine ⟨k, e, sound.isLatest_of_split before.reverse after.reverse ?_ (of_decide_eq_true holds)
    fun ke mem => ?_⟩
  · rw [← List.reverse_reverse s.entries, split]
    simp
  · simpa using none_after ke (List.mem_reverse.mp mem)

end Store

end Chronicle
