import Chronicle.Proofs.Store.Generations
import Chronicle.Proofs.Text

/-!
# Minted ids

A minted id ends in the sequence number of the entry that it is minted for, and that number can be read
back from it (`number_eq_of_mint_eq`).  So an id minted now is a new one as long as the minted ids that
have been seen all carry numbers that were given before (`Store.Reserves`).  Evicting entries and forgetting
their ids never lowers the next number, which is why nothing but a forged id can break this.
-/

namespace Chronicle

namespace CorrelationId

variable {sort sort' : String} {m n : Nat}

/-- What stands behind the last `#` is read back. -/
theorem rtakeWhile_digits (lead : List Char) (n : Nat) :
    (lead ++ '#' :: Nat.toDigits 10 n).rtakeWhile (· ≠ '#') = Nat.toDigits 10 n := by
  have digits : ∀ c ∈ (Nat.toDigits 10 n).reverse, decide (c ≠ '#') = true := by
    intro c mem
    have digit : c.isDigit = true :=
      Nat.isDigit_of_mem_toDigits (by decide) (by decide) (List.mem_reverse.mp mem)
    refine decide_eq_true ?_
    rintro rfl
    exact absurd digit (by decide)
  rw [List.rtakeWhile, List.reverse_append, List.reverse_cons, List.append_assoc,
    List.takeWhile_append_of_pos digits]
  simp

theorem number_eq_of_mint_eq (same : mint sort m = mint sort' n) : m = n := by
  have texts : ∀ (sort : String) (n : Nat), (sort ++ "#" ++ toString n).toList =
      sort.toList ++ '#' :: Nat.toDigits 10 n := by
    intro sort n
    rw [String.toList_append, String.toList_append, ← Nat.toList_repr, List.append_assoc]
    rfl
  have read := congrArg (List.rtakeWhile (· ≠ '#') ∘ String.toList) (CorrelationId.minted.inj same)
  rw [Function.comp, Function.comp, texts, texts, rtakeWhile_digits, rtakeWhile_digits] at read
  refine Text.toString_injective (String.toList_inj.mp ?_)
  show m.repr.toList = n.repr.toList
  rw [Nat.toList_repr, Nat.toList_repr, read]

end CorrelationId

namespace Store

variable {s : Store}

/-- The minted ids that have been seen carry numbers that entries have been given. -/
def Reserves (s : Store) : Prop :=
  ∀ sort n, s.hasSeen (.mint sort n) = true → n < s.nextSequence

theorem reserves_empty (retiredCap : Nat) : (empty retiredCap).Reserves :=
  fun _ _ seen => absurd seen (by simp [empty, hasSeen])

/-- An id minted for the next entry has not been seen. -/
theorem Reserves.unseen (reserves : s.Reserves) (sort : String) :
    s.hasSeen (.mint sort s.nextSequence) = false :=
  Bool.eq_false_iff.mpr fun seen => absurd (reserves sort s.nextSequence seen) (Nat.lt_irrefl _)

theorem Reserves.of_ids {s' : Store} (reserves : s.Reserves) (ids : s'.ids = s.ids)
    (next : s'.nextSequence = s.nextSequence) : s'.Reserves := by
  intro sort n seen
  rw [next]
  rw [hasSeen, ids] at seen
  exact reserves sort n seen

/-- An entry is appended under an id that is not minted, or was minted before or for it. -/
theorem Reserves.append (reserves : s.Reserves) (id : CorrelationId) (kind : Kind) (status : Status)
    (now : Instant) (due : id.IsDue s.nextSequence) : (s.append id kind status now).2.Reserves := by
  intro sort n seen
  rw [hasSeen, lookup_append] at seen
  rw [nextSequence_append]
  split at seen
  · next same => exact Nat.lt_succ_of_le (due sort n same.symm)
  · exact Nat.lt_succ_of_lt (reserves sort n seen)

/-- Forgetting ids brings no other ids up. -/
theorem ids_without_sublist (s : Store) (k : Key) (p : Nat) (id : CorrelationId) :
    (s.without k p id).ids.Sublist s.ids := by
  unfold without retire
  refine List.foldlRecOn (motive := fun s' : Store => s'.ids.Sublist s.ids) _ _ (.refl _) ?_
  intro s' sublist id' _
  rw [forget]
  split
  · exact List.filter_sublist.trans sublist
  · exact sublist

theorem hasSeen_of_without {k : Key} {p : Nat} {id id' : CorrelationId}
    (seen : (s.without k p id).hasSeen id' = true) : s.hasSeen id' = true := by
  rw [hasSeen, List.lookup_isSome_iff] at seen ⊢
  obtain ⟨ik, mem, same⟩ := seen
  exact ⟨ik, (s.ids_without_sublist k p id).subset mem, same⟩

theorem Reserves.without (reserves : s.Reserves) (k : Key) (p : Nat) (id : CorrelationId) :
    (s.without k p id).Reserves := by
  intro sort n seen
  rw [nextSequence_without]
  exact reserves sort n (hasSeen_of_without seen)

end Store

end Chronicle
