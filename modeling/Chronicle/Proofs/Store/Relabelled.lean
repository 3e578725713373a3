import Chronicle.Proofs.Fork
import Mathlib.Logic.Function.Basic

/-!
# A store under other labels

An entry carries two labels that say nothing about what it is: its id, and whether it is discarded.
`Store.relabel` is the store in which they are others.  It finds the same keys, under the other ids, and each
operation on the store, the ids given to it being the others too, is the same operation on it.
-/

namespace Chronicle

/-- Other labels for entries.  No two ids become one, and an entry that is not discarded stays so. -/
structure Relabel where
  id : CorrelationId → CorrelationId
  flag : Bool → Bool
  injective : Function.Injective id
  unset : flag false = false

def Entry.relabel (r : Relabel) (e : Entry) : Entry :=
  { e with id := r.id e.id, discarded := r.flag e.discarded }

def Slot.relabel (r : Relabel) (slot : Slot) : Slot :=
  { slot with entry := slot.entry.map (Entry.relabel r) }

namespace Store

variable (r : Relabel) (s : Store)

def relabel (r : Relabel) (s : Store) : Store :=
  { s with
    slots := s.slots.map (Slot.relabel r)
    ids := s.ids.map fun ik => (r.id ik.1, ik.2)
    retired := s.retired.map r.id }

/-! ## Looking up -/

@[simp]
theorem slot?_relabel (k : Key) : (s.relabel r).slot? k = (s.slot? k).map (Slot.relabel r) := by
  simp only [slot?, relabel, Array.getElem?_map]
  cases s.slots[k.index]? with
  | none => rfl
  | some slot =>
      by_cases same : slot.generation = k.generation <;>
        simp [Slot.relabel, same, Option.filter_some]

@[simp]
theorem get?_relabel (k : Key) : (s.relabel r).get? k = (s.get? k).map (Entry.relabel r) := by
  simp only [get?, slot?_relabel]
  cases s.slot? k <;> rfl

@[simp]
theorem contains_relabel : (s.relabel r).contains = s.contains := by
  funext k
  simp [contains]

@[simp]
theorem lookup_relabel (id : CorrelationId) :
    (s.relabel r).ids.lookup (r.id id) = s.ids.lookup id := by
  simp only [relabel]
  induction s.ids with
  | nil => rfl
  | cons ik ids ih =>
      obtain ⟨id', k⟩ := ik
      have same : (r.id id == r.id id') = (id == id') := by
        rw [Bool.eq_iff_iff, beq_iff_eq, beq_iff_eq, r.injective.eq_iff]
      rw [List.map_cons, List.lookup_cons, List.lookup_cons, ih, same]

@[simp]
theorem keyOf?_relabel (id : CorrelationId) : (s.relabel r).keyOf? (r.id id) = s.keyOf? id := by
  simp only [keyOf?, contains_relabel, lookup_relabel]

@[simp]
theorem hasSeen_relabel (id : CorrelationId) :
    (s.relabel r).hasSeen (r.id id) = s.hasSeen id := by
  simp only [hasSeen, lookup_relabel]

/-- The entries under their other labels, in the same order. -/
theorem entries_relabel :
    (s.relabel r).entries = s.entries.map fun ke => (ke.1, ke.2.relabel r) := by
  rw [entries, entries, List.map_filterMap]
  refine List.filterMap_congr fun k _ => ?_
  rw [get?_relabel]
  cases s.get? k <;> rfl

@[simp]
theorem positionOf?_relabel (k : Key) : (s.relabel r).positionOf? k = s.positionOf? k := by
  have sequenceOf : (s.relabel r).sequenceOf = s.sequenceOf := by
    funext k
    simp only [Store.sequenceOf, get?_relabel]
    cases s.get? k <;> rfl
  have compareAt : (s.relabel r).compareAt = s.compareAt := by
    funext sequence position
    simp only [Store.compareAt, sequenceOf]
    rfl
  simp only [positionOf?, get?_relabel, compareAt]
  cases s.get? k <;> rfl

/-! ## Changing -/

/-- A map over all slots goes past the change of one. -/
theorem map_modify {α β : Type} (g : α → β) (f : α → α) (f' : β → β)
    (commutes : ∀ a, g (f a) = f' (g a)) (slots : Array α) (i : Nat) :
    (slots.modify i f).map g = (slots.map g).modify i f' := by
  refine Array.ext_getElem? fun j => ?_
  simp only [Array.getElem?_map, Array.getElem?_modify]
  by_cases here : i = j
  · simp [here, Function.comp_def, commutes]
  · simp [here]

theorem relabel_modifySlot (k : Key) {f g : Slot → Slot}
    (commutes : ∀ slot, (f slot).relabel r = g (slot.relabel r)) :
    (s.modifySlot k f).relabel r = (s.relabel r).modifySlot k g := by
  refine congrArg (fun slots => { s.relabel r with slots }) (map_modify (Slot.relabel r)
    (fun slot => if slot.generation = k.generation then f slot else slot)
    (fun slot => if slot.generation = k.generation then g slot else slot)
    (fun slot => ?_) s.slots k.index)
  show Slot.relabel r (ite _ _ _) = ite (slot.generation = k.generation) _ _
  split
  · exact commutes slot
  · rfl

/-- A change of an entry that does not look at its labels. -/
theorem relabel_update (k : Key) {f : Entry → Entry}
    (commutes : ∀ e, (f e).relabel r = f (e.relabel r)) :
    (s.update k f).relabel r = (s.relabel r).update k f := by
  refine relabel_modifySlot r s k fun slot => ?_
  simp only [Slot.relabel, Option.map_map]
  congr 2
  exact funext commutes

theorem relabel_releaseLease (k : Key) :
    (s.releaseLease k).relabel r = (s.relabel r).releaseLease k :=
  relabel_modifySlot r s k fun _ => rfl

theorem relabel_filter (ids : List (CorrelationId × Key)) (id : CorrelationId) :
    (ids.filter (·.1 ≠ id)).map (fun ik => (r.id ik.1, ik.2)) =
      (ids.map fun ik => (r.id ik.1, ik.2)).filter (·.1 ≠ r.id id) := by
  rw [List.filter_map]
  refine congrArg (List.map _) (List.filter_congr fun ik _ => ?_)
  simp [r.injective.eq_iff]

theorem relabel_place (e : Entry) :
    (s.relabel r).place (e.relabel r) = ((s.place e).1, (s.place e).2.relabel r) := by
  cases at_free : s.free with
  | nil => simp [place, relabel, at_free, Slot.relabel, Entry.relabel]
  | cons index free =>
      have filled := map_modify (Slot.relabel r)
        (fun slot => { slot with entry := some e, lease := some e.sequence })
        (fun slot => { slot with entry := some (e.relabel r), lease := some e.sequence })
        (fun slot => rfl) s.slots index
      have sequence : (e.relabel r).sequence = e.sequence := rfl
      simp only [place, relabel, at_free, filled, Array.getElem?_map, sequence]
      cases s.slots[index]? <;> rfl

theorem relabel_append (id : CorrelationId) (kind : Kind) (status : Status) (now : Instant) :
    (s.relabel r).append (r.id id) kind status now =
      ((s.append id kind status now).1, (s.append id kind status now).2.relabel r) := by
  have fresh : (s.relabel r).fresh (r.id id) kind status now =
      (s.fresh id kind status now).relabel r := by
    simp only [Store.fresh, Entry.relabel, r.unset]
    rfl
  have others := relabel_filter r (s.place (s.fresh id kind status now)).2.ids id
  simp only [append, fresh, relabel_place]
  generalize s.place (s.fresh id kind status now) = placed at others ⊢
  exact congrArg (fun ids => (placed.1, { placed.2.relabel r with
    order := placed.2.order ++ [placed.1]
    ids := (r.id id, placed.1) :: ids
    nextSequence := placed.2.nextSequence + 1 })) others.symm

/-! ## Evicting -/

theorem relabel_forget (id : CorrelationId) :
    (s.forget id).relabel r = (s.relabel r).forget (r.id id) := by
  rw [forget, forget, keyOf?_relabel]
  split
  · exact congrArg (fun ids => { s.relabel r with ids }) (relabel_filter r s.ids id)
  · rfl

theorem relabel_foldl_forget (gone : List CorrelationId) :
    (gone.foldl forget s).relabel r = (gone.map r.id).foldl forget (s.relabel r) := by
  induction gone generalizing s with
  | nil => rfl
  | cons id gone ih => rw [List.foldl_cons, ih, relabel_forget, List.map_cons, List.foldl_cons]

theorem relabel_without (k : Key) (p : Nat) (id : CorrelationId) :
    (s.without k p id).relabel r = (s.relabel r).without k p (r.id id) := by
  have vacated := map_modify (Slot.relabel r)
    (fun slot => { generation := nextGeneration slot.generation, entry := none, lease := none })
    (fun slot => { generation := nextGeneration slot.generation, entry := none, lease := none })
    (fun _ => rfl) s.slots k.index
  have queue : (s.relabel r).retired ++ [r.id id] = (s.retired ++ [id]).map r.id := by
    rw [List.map_append]
    rfl
  simp only [without, retire, vacate]
  rw [relabel_foldl_forget, List.map_take]
  simp only [queue, List.length_map]
  simp only [relabel, vacated, List.map_drop]

/-- Evicting looks at the flags of entries, so these have to be what they were. -/
theorem evict_relabel (keeps : ∀ b, r.flag b = b) (k : Key) :
    (s.relabel r).evict k = ((s.evict k).1.map (Entry.relabel r), (s.evict k).2.relabel r) := by
  simp only [evict, get?_relabel, positionOf?_relabel]
  cases s.get? k with
  | none => rfl
  | some e =>
      have status : (e.relabel r).status = e.status := rfl
      have flag : (e.relabel r).discarded = e.discarded := keeps e.discarded
      simp only [Option.map_some, status, flag]
      split
      · rfl
      · split
        · rfl
        · cases s.positionOf? k with
          | none => rfl
          | some p => exact Prod.ext rfl (relabel_without r s k p e.id).symm

end Store

/-! ## Forks -/

theorem Fork.markAppended_relabel (r : Relabel) (keeps : ∀ b, r.flag b = b) (f : Fork) (s : Store)
    (k : Key) : f.markAppended (s.relabel r) k = (f.markAppended s k).relabel r := by
  rw [markAppended, markAppended]
  split
  · exact (Store.relabel_update r s k fun e => by simp [Entry.relabel, keeps]).symm
  · rfl

end Chronicle
