import Chronicle.Proofs.Timeline.Keys

/-!
# Ids that have been seen

An id counts as seen from the entry that it was given to until it is forgotten, and it is forgotten when
more ids of evicted entries wait to be remembered than there is room for.  So as long as no more entries
have gone than are remembered, an id that has been seen stays seen (`Changes.hasSeen`).
-/

namespace Chronicle

namespace Store

variable {s s' : Store} {id : CorrelationId}

/-- The ids that are remembered are those of entries that have gone. -/
def RemembersGone (s : Store) : Prop := s.retired.length ≤ s.gone

theorem remembersGone_empty (retiredCap : Nat) : (empty retiredCap).RemembersGone := Nat.zero_le _

theorem length_retired_without_le (s : Store) (k : Key) (p : Nat) (id : CorrelationId) :
    (s.without k p id).retired.length ≤ s.retired.length + 1 := by
  rw [retired_without, List.rtake_eq_reverse_take_reverse, List.length_reverse]
  refine Nat.le_trans (List.length_take_le' _ _) ?_
  rw [List.length_reverse, List.length_append, List.length_singleton]

/-- While there is room for one more id, none is forgotten. -/
theorem ids_without_of_room (room : s.retired.length < s.retiredCap) (k : Key) (p : Nat)
    (id : CorrelationId) : (s.without k p id).ids = s.ids := by
  have none_beyond : (s.retired ++ [id]).length - s.retiredCap = 0 := by
    rw [List.length_append, List.length_singleton]
    omega
  show ((List.take ((s.retired ++ [id]).length - s.retiredCap) _).foldl forget _).ids = _
  rw [none_beyond]
  rfl

theorem Shift.retiredCap_eq (shift : s.Shift s') : s'.retiredCap = s.retiredCap := by
  cases shift with
  | stays => rfl
  | edit k f => rfl
  | append id kind status now unused => exact retiredCap_append id kind status now s
  | releaseLease k => rfl
  | without found at_p => exact s.retiredCap_without _ _ _

theorem Shift.remembersGone (shift : s.Shift s') (keyed : s.Keyed) (remembers : s.RemembersGone) :
    s'.RemembersGone := by
  unfold RemembersGone at remembers ⊢
  cases shift with
  | stays => exact remembers
  | edit k f => exact remembers
  | append id kind status now unused =>
      rw [gone_append keyed.paced, retired_append]
      exact remembers
  | releaseLease k => exact remembers
  | without found at_p =>
      rw [gone_without at_p keyed.paced]
      exact Nat.le_trans (s.length_retired_without_le _ _ _) (Nat.succ_le_succ remembers)

/-- What has been seen stays so, unless more entries have gone than are remembered. -/
theorem Shift.hasSeen (shift : s.Shift s') (keyed : s.Keyed) (remembers : s.RemembersGone)
    (few : s'.gone ≤ s.retiredCap) (seen : s.hasSeen id = true) : s'.hasSeen id = true := by
  cases shift with
  | stays => exact seen
  | edit k f => exact seen
  | append id' kind status now unused =>
      rw [Store.hasSeen, lookup_append]
      split
      · rfl
      · exact seen
  | releaseLease k => exact seen
  | without found at_p =>
      rw [gone_without at_p keyed.paced] at few
      have room : s.retired.length < s.retiredCap := Nat.lt_of_le_of_lt remembers few
      rw [Store.hasSeen, ids_without_of_room room]
      exact seen

end Store

namespace Log

variable {l l' : Log} {reword : Key → Kind → Prop} {id : CorrelationId}

theorem Changes.remembersGone (changes : Changes reword l l') (keyed : l.store.Keyed)
    (remembers : l.store.RemembersGone) :
    l'.store.RemembersGone ∧ l'.store.retiredCap = l.store.retiredCap := by
  induction changes with
  | refl => exact ⟨remembers, rfl⟩
  | tail before change ih =>
      have keyed' := (Changes.keyed before keyed).1
      have shift := change.shift keyed'.sound
      exact ⟨shift.remembersGone keyed' ih.1, shift.retiredCap_eq.trans ih.2⟩

theorem Changes.hasSeen (changes : Changes reword l l') (keyed : l.store.Keyed)
    (remembers : l.store.RemembersGone) (few : l'.store.gone ≤ l.store.retiredCap)
    (seen : l.store.hasSeen id = true) : l'.store.hasSeen id = true := by
  induction changes with
  | refl => exact seen
  | tail before change ih =>
      have keyed' := (Changes.keyed before keyed).1
      have shift := change.shift keyed'.sound
      obtain ⟨remembers', cap⟩ := Changes.remembersGone before keyed remembers
      have seen' := ih (Nat.le_trans (shift.gone_le keyed') few)
      exact shift.hasSeen keyed' remembers' (by rw [cap]; exact few) seen'

end Log

end Chronicle
