import Chronicle.Proofs.Session.Moves
import Chronicle.Proofs.Session.Submission

/-!
# How high the window is

The number of rows of the window is set by resizing, and by nothing else: whatever moves the window or the
selection leaves it alone, and so does every other action (`rows_perform`).  So after a run the window is as
high as it was when it was last resized (`rows_run`).
-/

namespace Chronicle

namespace Viewport

variable (v : Viewport) (len : Nat)

theorem rows_settle : (v.settle len).rows = v.rows := by
  rw [settle]
  split <;> rfl

theorem rows_onAppend : (v.onAppend len).rows = v.rows := by
  rw [onAppend]
  split <;> rfl

theorem rows_onEvicted (removed : List Nat) : (v.onEvicted removed len).rows = v.rows :=
  rows_settle _ len

theorem rows_reveal (p : Nat) : (v.reveal p len).rows = v.rows := (v.reveal_frame p len).1

theorem rows_select (p : Nat) : (v.select (some p) len).rows = v.rows := (v.select_frame p len).1

theorem rows_navigateUp : (v.navigateUp len).rows = v.rows := by
  rw [navigateUp]
  split
  · rfl
  · exact rows_reveal _ len _

theorem rows_navigateDown : (v.navigateDown len).rows = v.rows := by
  rw [navigateDown]
  split
  · rfl
  · simp only
    split <;> split <;> exact rows_reveal _ len _

end Viewport

namespace Session

variable {s : Session}

/-- The action sets the number of rows. -/
def Action.resizes : Action → Bool
  | handle (.command (.resize _)) _ => true
  | _ => false

/-! ## Searching, streaming and the history -/

theorem rows_jumpTo (s : Session) (index : Nat) : (s.jumpTo index).viewport.rows = s.viewport.rows := by
  rw [jumpTo]
  split
  · rfl
  · exact Viewport.rows_select s.viewport s.size _

theorem rows_jumpToOption (s : Session) (index : Option Nat) :
    (s.jumpToOption index).2.viewport.rows = s.viewport.rows := by
  cases index with
  | none => rfl
  | some index => exact rows_jumpTo s index

theorem rows_setQuery (s : Session) (query : String) :
    (s.setQuery query).viewport.rows = s.viewport.rows := by
  rw [setQuery]
  simp only
  split
  · rfl
  · exact rows_jumpTo { s with search := .look s.store query } _

theorem viewport_subscribe (s : Session) (id : CorrelationId) :
    (s.subscribe id).2.viewport = s.viewport := by
  rcases subscribe_cases s id with same | ⟨k, same⟩ <;> rw [same]

theorem viewport_stopHero (s : Session) : s.stopHero.2.viewport = s.viewport := by
  rcases stopHero_cases s with same | ⟨tokens, id, -, same⟩ <;> rw [same]

theorem viewport_reconnect (s : Session) : s.reconnect.2.viewport = s.viewport := by
  rw [reconnect]
  split <;> rfl

theorem viewport_evict (s : Session) (k : Key) : (s.evict k).2.viewport = s.viewport := by
  obtain ⟨store, tokens, evicted, same⟩ := evict_frame s k
  rw [same]

theorem rows_enforceHistoryCap (s : Session) :
    s.enforceHistoryCap.2.viewport.rows = s.viewport.rows := by
  obtain ⟨store, tokens, evicted, all⟩ := evictAll_frame s s.victims
  rcases enforceHistoryCap_cases s with same | ⟨-, ⟨-, same⟩ | ⟨-, same⟩⟩
  · rw [same]
  · rw [same, all]
  · rw [same]
    refine (Viewport.rows_onEvicted _ _ _).trans ?_
    rw [all]

theorem rows_ingest (s : Session) (m : Message) (now : Instant) :
    (s.ingest m now).2.viewport.rows = s.viewport.rows := by
  rw [ingest]
  generalize s.correlator.apply s.store m now = r
  obtain ⟨result, correlator, store⟩ := r
  cases result with
  | error e => rfl
  | ok o =>
      cases o with
      | appended k => exact (rows_enforceHistoryCap _).trans (Viewport.rows_onAppend s.viewport _)
      | _ => rfl

/-! ## The card -/

theorem rows_afterFork (s : Session) : s.afterFork.viewport.rows = s.viewport.rows := by
  rw [afterFork]
  split
  · exact Viewport.rows_reveal s.viewport s.size _
  · exact rows_enforceHistoryCap (s.moveWindow Viewport.scrollToEnd)

theorem rows_applyFork (s : Session) (r : Except ForkError Fork × Store) :
    (s.applyFork r).2.viewport.rows = s.viewport.rows := by
  obtain ⟨moved, store⟩ := r
  cases moved with
  | error e => rfl
  | ok fork => exact rows_afterFork { s with fork, store }

theorem rows_forkAtRow (s : Session) (row : Nat) (now : Instant) :
    (s.forkAtRow row now).2.viewport.rows = s.viewport.rows := by
  rw [forkAtRow]
  split
  · exact rows_applyFork s _
  · rfl

theorem viewport_resolveFork (s : Session) : s.resolveFork.viewport = s.viewport := by
  rw [resolveFork]
  split <;> rfl

theorem rows_cancelFork (s : Session) : s.cancelFork.viewport.rows = s.viewport.rows := by
  rw [cancelFork]
  split
  · rw [rows_afterFork, viewport_resolveFork]
  · rfl

theorem rows_submitInstruction (s : Session) (text : String) (now : Instant) :
    (s.submitInstruction text now).2.viewport.rows = s.viewport.rows := by
  rcases s.submitInstruction_cases text now with ⟨-, same⟩ | ⟨-, same⟩
  · rw [same]
  · rw [same, submitText_eq]
    refine (rows_ingest s.resolveFork.numbered _ now).trans ?_
    rw [numbered, viewport_resolveFork]

theorem rows_submitDraft (s : Session) (now : Instant) :
    (s.submitDraft now).2.viewport.rows = s.viewport.rows := by
  rw [submitDraft]
  cases searchOf? s.draft with
  | some query =>
      simp only
      exact rows_setQuery { s with draft := "" } query
  | none =>
      simp only
      exact rows_submitInstruction { s with draft := "" } s.draft now

/-! ## All actions -/

theorem rows_applyCommand (s : Session) (c : Command) (now : Instant)
    (other : (Action.handle (.command c) now).resizes = false) :
    (s.applyCommand c now).2.viewport.rows = s.viewport.rows := by
  cases c with
  | moveForkUp => exact rows_applyFork s _
  | moveForkDown => exact rows_applyFork s _
  | cancelFork => exact rows_cancelFork s
  | forkAt position => exact rows_applyFork s _
  | forkAtRow row => exact rows_forkAtRow s row now
  | navigateUp => exact Viewport.rows_navigateUp s.viewport s.size
  | navigateDown => exact Viewport.rows_navigateDown s.viewport s.size
  | resize rows => exact absurd other (by simp [Action.resizes])
  | stopHero => exact congrArg Viewport.rows (viewport_stopHero s)
  | submitDraft => exact rows_submitDraft s now
  | search query =>
      simp only [applyCommand]
      exact rows_setQuery s query
  | searchNext => exact rows_jumpToOption s _
  | searchPrevious => exact rows_jumpToOption s _
  | _ => rfl

theorem rows_handle (s : Session) (m : Message) (now : Instant)
    (other : (Action.handle m now).resizes = false) :
    (s.handle m now).2.viewport.rows = s.viewport.rows := by
  cases m with
  | command c => exact rows_applyCommand s c now other
  | connectionError reason => rfl
  | connectionRestored => exact congrArg Viewport.rows (viewport_reconnect s)
  | _ => exact rows_ingest s _ now

/-- Nothing but resizing changes the number of rows. -/
theorem rows_perform (s : Session) {a : Action} (other : a.resizes = false) :
    (s.perform a).viewport.rows = s.viewport.rows := by
  cases a with
  | handle m now => exact rows_handle s m now other
  | moveForkUp => exact rows_applyFork s _
  | moveForkDown => exact rows_applyFork s _
  | forkAt position => exact rows_applyFork s _
  | cancelFork => exact rows_cancelFork s
  | submitInstruction text now =>
      rw [perform]
      exact rows_submitInstruction s text now
  | setQuery query =>
      rw [perform]
      exact rows_setQuery s query
  | searchNext =>
      rw [perform]
      exact rows_jumpToOption s _
  | searchPrevious =>
      rw [perform]
      exact rows_jumpToOption s _
  | subscribe id => exact congrArg Viewport.rows (viewport_subscribe s id)
  | cancelToken token => rfl
  | stopHero => exact congrArg Viewport.rows (viewport_stopHero s)
  | takeOutbound => rfl
  | enforceHistoryCap => exact rows_enforceHistoryCap s
  | evict k => exact congrArg Viewport.rows (viewport_evict s k)

theorem rows_run (s : Session) {actions : List Action} (others : ∀ a ∈ actions, a.resizes = false) :
    (s.run actions).viewport.rows = s.viewport.rows := by
  refine run_induct (motive := fun s' => s'.viewport.rows = s.viewport.rows) rfl actions ?_
  intro s' a mem same
  exact (rows_perform s' (others a mem)).trans same

end Session

end Chronicle
