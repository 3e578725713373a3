import Chronicle.Proofs.Correlator.Tools
import Chronicle.Proofs.Session.HistoryCap
import Chronicle.Proofs.Timeline.Keys

/-!
# Keys and leases in a run

What is known of the keys, the ids and the leases of one store, carried along runs: every change of the log
keeps it.  As many entries have gone as have been counted (`gone_run`), so a bound on the number of
evictions is one on how far the generations of slots have come (`names_run`).
-/

namespace Chronicle

namespace Session

open Log (Tends)

variable {s : Session} {k : Key} {n : Nat}

/-! ## Keys -/

theorem keyed_start (c : Config) : (start c).store.Keyed := Store.keyed_empty c.retiredIds

theorem keyed_perform (keyed : s.store.Keyed) (a : Action) :
    (s.perform a).store.Keyed ∧ s.store.gone ≤ (s.perform a).store.gone :=
  (perform_changes s a).keyed keyed

theorem keyed_run (keyed : s.store.Keyed) (actions : List Action) : (s.run actions).store.Keyed :=
  run_induct (motive := fun s => s.store.Keyed) keyed actions fun _ a _ keyed =>
    (keyed_perform keyed a).1

/-- Entries that have gone stay gone. -/
theorem gone_le_run (keyed : s.store.Keyed) (actions : List Action) :
    s.store.gone ≤ (s.run actions).store.gone := by
  induction actions generalizing s with
  | nil => exact Nat.le_refl _
  | cons a actions ih =>
      obtain ⟨keyed', first⟩ := keyed_perform keyed a
      exact Nat.le_trans first (ih keyed')

theorem gone_run (c : Config) (actions : List Action) :
    ((start c).run actions).store.gone = ((start c).run actions).counters.evicted := by
  have counted := (counted_run c actions).1
  unfold Basis.Counted at counted
  exact Nat.sub_eq_of_eq_add (counted.trans (Nat.add_comm _ _))

/-- A key goes on naming what it named, or names nothing any more, while generations are left. -/
theorem names_run (keyed : s.store.Keyed) (later : List Action)
    (few : (s.run later).store.gone < generationLimit) (names : s.store.Names k n) :
    (s.run later).store.Names k n := by
  induction later using List.reverseRecOn with
  | nil => exact names
  | append_singleton later a ih =>
      rw [run_append] at few ⊢
      have keyed' := keyed_run keyed later
      have fewer := Nat.lt_of_le_of_lt (keyed_perform keyed' a).2 few
      exact (perform_changes (s.run later) a).names keyed' few (ih fewer)

/-! ## Leases -/

theorem leased_tends {l l' : Log} (tends : Tends l l') (sound : l.store.Sound)
    (leased : l.store.Leased) : l'.store.Leased := by
  refine tends.preserves (motive := fun l => l.store.Leased) sound leased ?flag ?without
  case flag =>
    intro l k discarded leased
    exact leased.edit k (Edit.setDiscarded discarded) fun e _ tool => ⟨tool, rfl⟩
  case without => exact fun l k e p found _ _ leased => leased.without found p e.id

theorem leased_perform (holds : s.log.Coherent) (leased : s.store.Leased) (a : Action) :
    (s.perform a).store.Leased := by
  rcases perform_course s a with ⟨s₁, m, now, taken, before, after⟩ | ⟨-, tends⟩
  · have holds₁ := before.coherent holds
    have leased₁ : s₁.store.Leased := leased_tends before holds.sound leased
    have leased' : (s₁.log.take m now).store.Leased := Correlator.leased_apply holds₁ leased₁ m now
    exact leased_tends after (holds₁.take m now).sound leased'
  · exact leased_tends tends holds.sound leased

theorem leased_run (c : Config) (actions : List Action) : ((start c).run actions).store.Leased := by
  have both : ((start c).run actions).log.Coherent ∧ ((start c).run actions).store.Leased := by
    refine run_induct (motive := fun s => s.log.Coherent ∧ s.store.Leased)
      ⟨coherent_log_start c, Store.leased_empty c.retiredIds⟩ actions ?_
    rintro s a - ⟨holds, leased⟩
    exact ⟨(perform_changes s a).coherent holds, leased_perform holds leased a⟩
  exact both.2

end Session

end Chronicle
