import Chronicle.Proofs.Correlator.Relabelled

/-!
# Messages do not look at flags

`Store.unflagged` is the store as it would be if nothing had been discarded: the store under other labels, of
which the ids are the same.  Flagging is nothing to it, and a message has the same result in it as in the
store, and leaves it as it leaves the other, without the flags (`apply_unflagged`).
-/

namespace Chronicle

/-- The entry as it would be if it had not been discarded. -/
def Entry.unflagged (e : Entry) : Entry := { e with discarded := false }

def Slot.unflagged (slot : Slot) : Slot := { slot with entry := slot.entry.map Entry.unflagged }

/-- The same ids, and no flags. -/
def Relabel.unflag : Relabel where
  id id := id
  flag _ := false
  injective := Function.injective_id
  unset := rfl

namespace Store

def unflagged (s : Store) : Store := { s with slots := s.slots.map Slot.unflagged }

theorem relabel_unflag (s : Store) : s.relabel .unflag = s.unflagged := by
  have ids : s.ids.map (fun ik : CorrelationId × Key => (ik.1, ik.2)) = s.ids := List.map_id' s.ids
  have retired : s.retired.map (fun id : CorrelationId => id) = s.retired := List.map_id' s.retired
  simp only [relabel, Relabel.unflag, ids, retired]
  rfl

/-- The entries without their flags, in the same order. -/
theorem entries_unflagged (s : Store) :
    s.unflagged.entries = s.entries.map fun ke => (ke.1, ke.2.unflagged) := by
  rw [← relabel_unflag, entries_relabel]
  rfl

/-- Flags are all that flagging changes. -/
theorem unflagged_flag (s : Store) (k : Key) (discarded : Bool) :
    (s.update k (Edit.setDiscarded discarded).run).unflagged = s.unflagged := by
  have undone : (s.update k (Edit.setDiscarded discarded).run).relabel .unflag =
      (s.relabel .unflag).modifySlot k id := by
    refine relabel_modifySlot .unflag s k fun slot => ?_
    simp only [Slot.relabel, Option.map_map]
    rfl
  rw [modifySlot_id, relabel_unflag, relabel_unflag] at undone
  exact undone

theorem unflagged_flagEach (p : Nat → Bool) (flags : List (Key × Nat)) (s : Store) :
    (flagEach p flags s).unflagged = s.unflagged := by
  induction flags generalizing s with
  | nil => rfl
  | cons flag flags ih => exact (ih _).trans (unflagged_flag s flag.1 (p flag.2))

end Store

namespace Fork

theorem unflagged_markAppended (f : Fork) (s : Store) (k : Key) :
    (f.markAppended s k).unflagged = s.unflagged := by
  rw [markAppended]
  split
  · exact s.unflagged_flag k true
  · rfl

theorem unflagged_partition (f : Fork) (s : Store) : (f.partition s).unflagged = s.unflagged :=
  s.unflagged_flagEach f.discards s.order.zipIdx

end Fork

/-- The result of a message, in a store without its flags. -/
def Ingested.unflagged (r : Ingested) : Ingested := { r with store := r.store.unflagged }

theorem Correlator.apply_unflagged (c : Correlator) (s : Store) (now : Instant) (m : Message) :
    c.apply s.unflagged m now = (c.apply s m now).unflagged := by
  obtain ⟨alike, correlator, store⟩ :=
    apply_relabels .unflag c s now m (fun _ _ => rfl) (fun _ _ => rfl)
  have result := alike.eq fun _ => rfl
  rw [Store.relabel_unflag] at result correlator store
  rw [Store.relabel_unflag] at store
  rw [Ingested.unflagged, ← result, ← correlator, ← store]

end Chronicle
