import Chronicle.Proofs.Session.Changes
import Mathlib.Data.List.Sort

/-!
# The past of a session

Two states of one run, the later one compared with the earlier one (`keepsHistory_run`).  What is live in
both stands in the same order, under the same keys, and each entry is a later state of what it was: its
id, its start and its sort are the same, and once it is finished nothing about it changes, except that
an acknowledgement that names an instruction puts other words into it.  So the time that a finished
entry took does not depend on when one asks.

Entries are told apart by their numbers.  Slots and keys are used again, numbers are not.
-/

namespace Chronicle

namespace Session

/-- What the actions `later` leave alone. -/
structure KeepsHistory (s : Session) (later : List Action) : Prop where
  /-- The entries that are live before and after stand in the same order. -/
  order : s.store.sequences.filter (· ∈ (s.run later).store.sequences) =
    (s.run later).store.sequences.filter (· ∈ s.store.sequences)
  /-- Each of them is the same entry, later on. -/
  entries : ∀ k e k' e', (k, e) ∈ s.store.entries → (k', e') ∈ (s.run later).store.entries →
    e'.sequence = e.sequence → k' = k ∧ e.Follows (s.Reworded later k) e'
  /-- The time that a finished one took is settled. -/
  elapsed : ∀ k e k' e', (k, e) ∈ s.store.entries → (k', e') ∈ (s.run later).store.entries →
    e'.sequence = e.sequence → e.status.isFinished = true → ∀ now now', e'.elapsed now' = e.elapsed now

theorem common_sequences {s s' : Store} (sound : s.Sound) (sound' : s'.Sound) :
    s.sequences.filter (· ∈ s'.sequences) = s'.sequences.filter (· ∈ s.sequences) := by
  refine (sound.increasing.filter _).eq_of_mem_iff (sound'.increasing.filter _) fun n => ?_
  simp only [List.mem_filter, decide_eq_true_eq]
  exact and_comm

/-- Whatever is done in a run after some state of it, the history of that state is kept. -/
theorem keepsHistory_run (c : Config) (before later : List Action) :
    ((start c).run before).KeepsHistory later := by
  have holds := coherent_log_run (coherent_log_start c) before
  generalize (start c).run before = s at holds
  have holds' := coherent_log_run holds later
  have continues := continues_run holds later
  have sound : s.store.Sound := holds.sound
  have sound' : (s.run later).store.Sound := holds'.sound
  have entries : ∀ k e k' e', (k, e) ∈ s.store.entries → (k', e') ∈ (s.run later).store.entries →
      e'.sequence = e.sequence → k' = k ∧ e.Follows (s.Reworded later k) e' := by
    intro k e k' e' mem mem' same
    have found := sound.mem_entries.mp mem
    have old : e'.sequence < s.store.nextSequence :=
      same ▸ sound.below e.sequence (List.mem_map.mpr ⟨_, mem, rfl⟩)
    obtain ⟨e₀, found₀, follows⟩ := continues.entries k' e' (sound'.mem_entries.mp mem') old
    have number : e'.sequence = e₀.sequence := congrArg Prod.snd follows.name
    obtain rfl := sound.key_of_sequence found₀ found (number.symm.trans same)
    obtain rfl := Option.some.inj (found.symm.trans found₀)
    exact ⟨rfl, follows⟩
  refine ⟨common_sequences sound sound', entries, ?_⟩
  intro k e k' e' mem mem' same finished now now'
  obtain ⟨rfl, follows⟩ := entries k e k' e' mem mem' same
  have coherent := holds.entries k' e (sound.mem_entries.mp mem)
  obtain ⟨status, ended, -⟩ := follows.frozen finished
  rw [coherent.elapsed_eq finished now now', Entry.elapsed, Entry.elapsed, follows.started, ended,
    status]

end Session

end Chronicle
