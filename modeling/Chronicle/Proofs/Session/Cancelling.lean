import Chronicle.Proofs.Session.Eviction
import Chronicle.Proofs.Session.Frames
import Chronicle.Proofs.Session.Submission
import Chronicle.Session.Handling

/-!
# Which messages cancel a stream

Stopping the hero is the one message that cancels a token (`cancelled_handle`): tokens are let go of when
their entries end or leave, but the streams that hold them go on as they were.  And a token that has been
cancelled stays so, whatever is handled (`isCancelled_handle`).
-/

namespace Chronicle

theorem Tokens.isCancelled_iff (t : Tokens) (token : Nat) :
    t.isCancelled token = true ↔ token ∈ t.cancelled := by
  rw [isCancelled, List.contains_iff_mem]

theorem Tokens.cancelled_subset_cancel (t : Tokens) (token : Nat) :
    t.cancelled ⊆ (t.cancel token).cancelled := by
  intro token' mem
  rw [cancel]
  split
  · exact mem
  · exact List.mem_cons_of_mem token mem

namespace Session

variable {s : Session}

/-! ## Entries that go -/

theorem cancelled_evict (s : Session) (k : Key) :
    (s.evict k).2.tokens.cancelled = s.tokens.cancelled := by
  rw [evict]
  split
  · rfl
  · split
    · rfl
    · split <;> rfl

theorem cancelled_enforceHistoryCap (s : Session) :
    s.enforceHistoryCap.2.tokens.cancelled = s.tokens.cancelled := by
  have all : (s.evictAll s.victims).2.tokens.cancelled = s.tokens.cancelled :=
    evictAll_induct (motive := fun s' => s'.tokens.cancelled = s.tokens.cancelled) rfl
      (fun s' k same => (cancelled_evict s' k).trans same) s.victims
  rcases enforceHistoryCap_cases s with same | ⟨-, ⟨-, same⟩ | ⟨-, same⟩⟩
  · rw [same]
  · rw [same]
    exact all
  · rw [same]
    exact all

/-! ## Entries that come or change -/

theorem cancelled_ingest (s : Session) (m : Message) (now : Instant) :
    (s.ingest m now).2.tokens.cancelled = s.tokens.cancelled := by
  rw [ingest]
  generalize s.correlator.apply s.store m now = r
  simp only
  split
  · rfl
  · next outcome _ =>
      cases outcome with
      | appended k => exact cancelled_enforceHistoryCap _
      | _ => rfl

/-! ## Commands -/

theorem cancelled_afterFork (s : Session) : s.afterFork.tokens.cancelled = s.tokens.cancelled := by
  rw [afterFork]
  split
  · rfl
  · exact cancelled_enforceHistoryCap _

theorem cancelled_applyFork (s : Session) (r : Except ForkError Fork × Store) :
    (s.applyFork r).2.tokens.cancelled = s.tokens.cancelled := by
  obtain ⟨moved, store⟩ := r
  cases moved with
  | error e => rfl
  | ok fork => exact cancelled_afterFork _

theorem cancelled_resolveFork (s : Session) : s.resolveFork.tokens.cancelled = s.tokens.cancelled := by
  rw [resolveFork]
  split <;> rfl

theorem cancelled_cancelFork (s : Session) : s.cancelFork.tokens.cancelled = s.tokens.cancelled := by
  rw [cancelFork]
  split
  · exact (cancelled_afterFork _).trans (cancelled_resolveFork s)
  · rfl

theorem cancelled_jumpToOption (s : Session) (index : Option Nat) :
    (s.jumpToOption index).2.tokens.cancelled = s.tokens.cancelled := by
  obtain ⟨search, viewport, same⟩ := jumpToOption_frame s index
  rw [same]

theorem cancelled_setQuery (s : Session) (query : String) :
    (s.setQuery query).tokens.cancelled = s.tokens.cancelled := by
  obtain ⟨search, viewport, same⟩ := setQuery_frame s query
  rw [same]

theorem cancelled_submitInstruction (s : Session) (text : String) (now : Instant) :
    (s.submitInstruction text now).2.tokens.cancelled = s.tokens.cancelled := by
  rcases s.submitInstruction_cases text now with ⟨-, same⟩ | ⟨-, same⟩
  · rw [same]
  · rw [same, submitText_eq]
    exact (cancelled_ingest _ _ now).trans (cancelled_resolveFork s)

theorem cancelled_submitDraft (s : Session) (now : Instant) :
    (s.submitDraft now).2.tokens.cancelled = s.tokens.cancelled := by
  rw [submitDraft]
  cases searchOf? s.draft with
  | some query =>
      simp only
      exact cancelled_setQuery { s with draft := "" } query
  | none =>
      simp only
      exact cancelled_submitInstruction { s with draft := "" } s.draft now

theorem cancelled_applyCommand (s : Session) {c : Command} (other : c ≠ .stopHero) (now : Instant) :
    (s.applyCommand c now).2.tokens.cancelled = s.tokens.cancelled := by
  cases c with
  | moveForkUp => exact cancelled_applyFork s _
  | moveForkDown => exact cancelled_applyFork s _
  | cancelFork => exact cancelled_cancelFork s
  | forkAt position => exact cancelled_applyFork s _
  | forkAtRow row =>
      rw [applyCommand, forkAtRow]
      split
      · exact cancelled_applyFork s _
      · rfl
  | stopHero => exact absurd rfl other
  | submitDraft => exact cancelled_submitDraft s now
  | search query =>
      simp only [applyCommand]
      exact cancelled_setQuery s query
  | searchNext => exact cancelled_jumpToOption s _
  | searchPrevious => exact cancelled_jumpToOption s _
  | _ => rfl

theorem cancelled_stopHero (s : Session) : s.tokens.cancelled ⊆ s.stopHero.2.tokens.cancelled := by
  rcases stopHero_cases s with same | ⟨tokens, id, rfl | ⟨token, rfl⟩, same⟩
  · rw [same]
    exact List.Subset.refl _
  · rw [same]
    exact List.Subset.refl _
  · rw [same]
    exact s.tokens.cancelled_subset_cancel token

/-- A new stream is not cancelled by being handed out. -/
theorem cancelled_subscribe (s : Session) (id : CorrelationId) :
    (s.subscribe id).2.tokens.cancelled = s.tokens.cancelled := by
  rcases subscribe_cases s id with same | ⟨k, same⟩
  · rw [same]
  · rw [same]
    simp only [Tokens.obtain]
    split <;> rfl

/-! ## Messages -/

/-- No message but the one that stops the hero cancels a stream. -/
theorem cancelled_handle (s : Session) {m : Message} (other : m ≠ .command .stopHero)
    (now : Instant) : (s.handle m now).2.tokens.cancelled = s.tokens.cancelled := by
  cases m with
  | command c => exact cancelled_applyCommand s (fun same => other (congrArg _ same)) now
  | connectionError reason => rfl
  | connectionRestored =>
      rw [handle, reconnect]
      split <;> rfl
  | _ => exact cancelled_ingest s _ now

theorem isCancelled_handle (s : Session) {token : Nat} (cancelled : s.tokens.isCancelled token = true)
    (m : Message) (now : Instant) : (s.handle m now).2.tokens.isCancelled token = true := by
  rw [Tokens.isCancelled_iff] at cancelled ⊢
  by_cases stops : m = .command .stopHero
  · rw [stops]
    exact cancelled_stopHero s cancelled
  · rw [cancelled_handle s stops now]
    exact cancelled

end Session

end Chronicle
