import Chronicle.Proofs.Store.Generations
import Chronicle.Proofs.Timeline.Log

/-!
# Keys and ids along changes

Whatever changes a log, to its store it is one of a few operations (`Change.shift`), and each of them keeps
what is known of keys and ids (`Shift.keyed`).  So a key that was handed out names the entry it was handed
out for, or none, as long as fewer entries have gone than there are generations (`Changes.names`).
-/

namespace Chronicle

namespace Store

variable {s s' : Store} {k : Key} {n : Nat}

/-- What is known of the keys and ids of a store that the operations have made. -/
structure Keyed (s : Store) : Prop where
  sound : s.Sound
  paced : s.Paced
  lists : s.Lists
  indexed : s.gone < generationLimit → s.Indexed

theorem keyed_empty (retiredCap : Nat) : (empty retiredCap).Keyed where
  sound := .empty retiredCap
  paced := paced_empty retiredCap
  lists := lists_empty retiredCap
  indexed _ := indexed_empty retiredCap

/-- One operation on a store. -/
inductive Shift (s : Store) : Store → Prop where
  | stays : Shift s s
  | edit (k : Key) (f : Edit) : Shift s (s.update k f.run)
  | append (id : CorrelationId) (kind : Kind) (status : Status) (now : Instant)
      (unused : s.hasSeen id = false ∨ ∃ sort, id = .mint sort s.nextSequence) :
      Shift s (s.append id kind status now).2
  | releaseLease (k : Key) : Shift s (s.releaseLease k)
  | without {k : Key} {e : Entry} {p : Nat} (found : s.get? k = some e)
      (at_p : s.keyAt? p = some k) : Shift s (s.without k p e.id)

theorem gone_append (paced : s.Paced) (id : CorrelationId) (kind : Kind) (status : Status)
    (now : Instant) : (s.append id kind status now).2.gone = s.gone := by
  have le := paced.size_le
  rw [gone, nextSequence_append, size_append, gone]
  omega

/-- Entries that have gone do not come back. -/
theorem Shift.gone_le (shift : s.Shift s') (keyed : s.Keyed) : s.gone ≤ s'.gone := by
  cases shift with
  | stays => exact Nat.le_refl _
  | edit k f => exact Nat.le_refl _
  | append id kind status now unused => exact (gone_append keyed.paced id kind status now).ge
  | releaseLease k => exact Nat.le_refl _
  | without found at_p =>
      rw [gone_without at_p keyed.paced]
      exact Nat.le_succ _

theorem Shift.keyed (shift : s.Shift s') (keyed : s.Keyed) : s'.Keyed := by
  obtain ⟨sound, paced, lists, indexed⟩ := keyed
  cases shift with
  | stays => exact ⟨sound, paced, lists, indexed⟩
  | edit k f => exact ⟨sound.edit k f, paced.edit k f, lists.edit k f, fun few => (indexed few).edit k f⟩
  | append id kind status now unused =>
      refine ⟨sound.append id kind status now, paced.append sound id kind status now,
        lists.append sound id kind status now unused, fun few => ?_⟩
      rw [gone_append paced] at few
      exact (indexed few).append sound id kind status now
  | releaseLease k =>
      exact ⟨sound.releaseLease k, paced.releaseLease k, lists.releaseLease k,
        fun few => (indexed few).releaseLease k⟩
  | without found at_p =>
      refine ⟨sound.without at_p _, paced.without at_p _, lists.without found, fun few => ?_⟩
      have fewer : s.gone < generationLimit := by
        rw [gone_without at_p paced] at few
        omega
      exact (indexed fewer).without at_p paced found few

theorem Shift.names (shift : s.Shift s') (keyed : s.Keyed) (few : s'.gone < generationLimit)
    (names : s.Names k n) : s'.Names k n := by
  cases shift with
  | stays => exact names
  | edit k' f => exact names.edit k' f
  | append id kind status now unused => exact names.append keyed.sound id kind status now
  | releaseLease k' => exact names.releaseLease k'
  | without found at_p => exact names.without at_p keyed.paced found few

end Store

namespace Log

variable {l l' : Log} {reword : Key → Kind → Prop}

theorem Change.shift (change : Change reword l l') (sound : l.store.Sound) :
    l.store.Shift l'.store := by
  cases change with
  | turn k f turns => exact .edit k f
  | endThought found opened text now => exact .edit _ (Entry.thinkLastEdit text now)
  | closeThought first now => exact .edit _ (Entry.closeEdit now)
  | append none_open id kind status now suits unused => exact .append id kind status now unused
  | releaseLease k => exact .releaseLease k
  | evict k =>
      rcases sound.evict_cases k with ⟨v, refused⟩ | ⟨e, p, found, -, -, at_p, evicted⟩
      · rw [refused]
        exact .stays
      · rw [evicted]
        exact .without found at_p

theorem Changes.keyed (changes : Changes reword l l') (keyed : l.store.Keyed) :
    l'.store.Keyed ∧ l.store.gone ≤ l'.store.gone := by
  induction changes with
  | refl => exact ⟨keyed, Nat.le_refl _⟩
  | tail _ change ih =>
      obtain ⟨keyed', le⟩ := ih
      have shift := change.shift keyed'.sound
      exact ⟨shift.keyed keyed', Nat.le_trans le (shift.gone_le keyed')⟩

/-- While generations are left, a key goes on naming what it named, or names nothing any more. -/
theorem Changes.names (changes : Changes reword l l') (keyed : l.store.Keyed)
    (few : l'.store.gone < generationLimit) {k : Key} {n : Nat} (names : l.store.Names k n) :
    l'.store.Names k n := by
  induction changes with
  | refl => exact names
  | tail before change ih =>
      have keyed' := (Changes.keyed before keyed).1
      have shift := change.shift keyed'.sound
      exact shift.names keyed' few (ih (Nat.lt_of_le_of_lt (shift.gone_le keyed') few))

end Log

end Chronicle
