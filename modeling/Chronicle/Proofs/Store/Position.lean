import Chronicle.Proofs.Store.Sound

/-!
# Positions

The position of an entry is found by halving the order, with the sequence numbers to go by.  In a
sound store these grow along the order, so the search ends where the key stands:
`Sound.positionOf?_eq_some` says that `positionOf?` inverts `keyAt?`.
-/

namespace Chronicle

/-! ## Halving -/

/-- Among positions of which exactly those after `p` lie past what is looked for, the search ends
at `p`. -/
theorem bisect_eq {probe : Nat → Ordering} {base size p : Nat} (from_base : base ≤ p)
    (inside : p < base + size) (past : ∀ q < base + size, probe q = .gt ↔ p < q) :
    bisect probe base size = p := by
  fun_induction bisect probe base size with
  | case1 base size small => omega
  | case2 base size large mid beyond ih =>
      have before := (past mid (by omega)).mp beyond
      exact ih from_base (by omega) fun q lt => past q (by omega)
  | case3 base size large mid within ih =>
      have after : ¬ p < mid := fun before => within ((past mid (by omega)).mpr before)
      exact ih (by omega) (by omega) fun q lt => past q (by omega)

namespace Store

variable {s : Store} {k k' : Key} {e e' : Entry}

theorem sequenceOf_eq (found : s.get? k = some e) : s.sequenceOf k = e.sequence := by
  rw [sequenceOf, found]

theorem compareAt_of_getElem? {p n : Nat} (at_p : s.order[p]? = some k)
    (found : s.get? k = some e) : s.compareAt n p = compare e.sequence n := by
  rw [compareAt, at_p]
  exact congrArg (compare · n) (sequenceOf_eq found)

section Order

variable (sound : s.Sound)
include sound

/-- Positions are ordered as the sequence numbers are. -/
theorem Sound.sequence_lt_iff {p q : Nat} (at_p : s.entries[p]? = some (k, e))
    (at_q : s.entries[q]? = some (k', e')) : e.sequence < e'.sequence ↔ p < q := by
  obtain ⟨p_lt, at_p⟩ := List.getElem?_eq_some_iff.mp at_p
  obtain ⟨q_lt, at_q⟩ := List.getElem?_eq_some_iff.mp at_q
  have grow := List.pairwise_iff_getElem.mp sound.entries_increasing
  constructor
  · intro lt
    rcases Nat.lt_trichotomy p q with before | rfl | after
    · exact before
    · rw [at_p] at at_q
      exact absurd lt (by simp [(Prod.mk.inj at_q).2])
    · have lt' := grow q p q_lt p_lt after
      simp only [at_p, at_q] at lt'
      omega
  · intro before
    have lt := grow p q p_lt q_lt before
    rwa [at_p, at_q] at lt

theorem Sound.exists_position (found : s.get? k = some e) :
    ∃ p : Nat, s.entries[p]? = some (k, e) :=
  List.getElem?_of_mem (sound.mem_entries.mpr found)

/-- Only one entry carries a sequence number. -/
theorem Sound.key_of_sequence (found : s.get? k = some e) (found' : s.get? k' = some e')
    (same : e.sequence = e'.sequence) : k = k' := by
  obtain ⟨p, at_p⟩ := sound.exists_position found
  obtain ⟨q, at_q⟩ := sound.exists_position found'
  have not_before := sound.sequence_lt_iff at_p at_q
  have not_after := sound.sequence_lt_iff at_q at_p
  have : p = q := by omega
  subst this
  exact (Prod.mk.inj (Option.some.inj (at_p.symm.trans at_q))).1

/-- The search ends at the one position where the key stands. -/
theorem Sound.positionOf?_eq_some {p : Nat} : s.positionOf? k = some p ↔ s.keyAt? p = some k := by
  constructor
  · intro searched
    unfold positionOf? at searched
    cases found : s.get? k with
    | none => simp [found] at searched
    | some e =>
        simp only [found] at searched
        split at searched
        · next hit =>
            obtain rfl := Option.some.inj searched
            rw [compareAt] at hit
            split at hit
            · next k' at_p =>
                obtain ⟨e', found'⟩ := (sound.live k').mpr (List.mem_of_getElem? at_p)
                rw [sequenceOf_eq found'] at hit
                have same := sound.key_of_sequence found' found (Nat.compare_eq_eq.mp hit)
                exact same ▸ at_p
            · exact absurd hit (by decide)
        · exact absurd searched (by simp)
  · intro at_p
    obtain ⟨e, found⟩ := (sound.live k).mpr (List.mem_of_getElem? at_p)
    have entry_p := sound.getElem?_entries.mpr ⟨at_p, found⟩
    have past : ∀ q < 0 + s.size, s.compareAt e.sequence q = .gt ↔ p < q := by
      intro q lt
      rw [Nat.zero_add, ← sound.length_entries] at lt
      obtain ⟨at_q, found'⟩ := sound.getElem?_entries.mp (List.getElem?_eq_getElem lt)
      have entry_q := sound.getElem?_entries.mpr ⟨at_q, found'⟩
      rw [compareAt_of_getElem? at_q found', Nat.compare_eq_gt]
      exact sound.sequence_lt_iff entry_p entry_q
    have inside : p < 0 + s.size := by
      rw [Nat.zero_add]
      exact (List.getElem?_eq_some_iff.mp at_p).1
    have ends : bisect (s.compareAt e.sequence) 0 s.size = p :=
      bisect_eq (Nat.zero_le p) inside past
    simp only [positionOf?, found, ends, compareAt_of_getElem? at_p found]
    simp

end Order

end Store

end Chronicle
