import Chronicle.Proofs.Correlator
import Chronicle.Proofs.Fork
import Chronicle.Proofs.Session.Eviction
import Chronicle.Proofs.Session.Frames
import Chronicle.Proofs.Viewport
import Chronicle.Session.Handling
import Mathlib.Logic.Relation

/-!
# What a session can do

`Action` names everything that can be asked of a session from outside, and `Session.run` does one
action after the other.  An invariant is not checked action by action, though: every action but a
direct eviction is made of a few kinds of small steps (`Step`), and of moves of the card
(`Move.turn`).  `perform_moves` says so, and `perform_steps` that an action which does not move the card
is made of steps alone.
-/

namespace Chronicle

namespace Session

/-! ## Actions -/

/-- What can be asked of a session. -/
inductive Action where
  | handle (m : Message) (now : Instant)
  | moveForkUp
  | moveForkDown
  | forkAt (position : Nat)
  | cancelFork
  | submitInstruction (text : String) (now : Instant)
  | setQuery (query : String)
  | searchNext
  | searchPrevious
  | subscribe (id : CorrelationId)
  | cancelToken (token : Nat)
  | stopHero
  | takeOutbound
  | enforceHistoryCap
  | evict (k : Key)
deriving DecidableEq, Repr

def perform (s : Session) : Action → Session
  | .handle m now => (s.handle m now).2
  | .moveForkUp => s.moveForkUp.2
  | .moveForkDown => s.moveForkDown.2
  | .forkAt position => (s.forkAt position).2
  | .cancelFork => s.cancelFork
  | .submitInstruction text now => (s.submitInstruction text now).2
  | .setQuery query => s.setQuery query
  | .searchNext => s.searchNext.2
  | .searchPrevious => s.searchPrevious.2
  | .subscribe id => (s.subscribe id).2
  | .cancelToken token => s.cancelToken token
  | .stopHero => s.stopHero.2
  | .takeOutbound => s.takeOutbound.2
  | .enforceHistoryCap => s.enforceHistoryCap.2
  | .evict k => (s.evict k).2

def run (s : Session) (actions : List Action) : Session := actions.foldl perform s

/-- The actions of a run of messages, each with the time at which it is handled. -/
def handling (messages : List (Message × Instant)) : List Action :=
  messages.map fun mn => .handle mn.1 mn.2

/-- The entry is evicted by request, and not because the history is too long. -/
def Action.evicts : Action → Bool
  | evict _ => true
  | _ => false

/-- The card may move. -/
def Action.movesFork : Action → Bool
  | handle (.command .moveForkUp) _ => true
  | handle (.command .moveForkDown) _ => true
  | handle (.command .cancelFork) _ => true
  | handle (.command (.forkAt _)) _ => true
  | handle (.command (.forkAtRow _)) _ => true
  | handle (.command .submitDraft) _ => true
  | moveForkUp => true
  | moveForkDown => true
  | forkAt _ => true
  | cancelFork => true
  | submitInstruction _ _ => true
  | _ => false

/-- What every action preserves holds after a run. -/
theorem run_induct {s : Session} {motive : Session → Prop} (start : motive s)
    (actions : List Action) (step : ∀ s, ∀ a ∈ actions, motive s → motive (s.perform a)) :
    motive (s.run actions) :=
  List.foldlRecOn actions perform start fun s holds a mem => step s a mem holds

/-! ## Steps -/

/-- A new entry, with the window brought along. -/
def withEntry (s : Session) (id : CorrelationId) (kind : Kind) (status : Status) (now : Instant) :
    Session :=
  let (k, store) := s.store.append id kind status now
  { s with store := s.fork.markAppended store k }.moveWindow Viewport.onAppend

/-- The small steps that actions are made of. -/
inductive Step : Session → Session → Prop where
  /-- Neither the timeline nor the fork nor the window changes. -/
  | aside {s s' : Session} (store : s'.store = s.store) (fork : s'.fork = s.fork)
      (viewport : s'.viewport = s.viewport) : Step s s'
  | window (s : Session) (f : Viewport → Nat → Viewport)
      (keeps : ∀ v len, v.Fits len → (f v len).Fits len) : Step s (s.moveWindow f)
  | edit (s : Session) (k : Key) (f : Edit) (keep : f.KeepsFlag) :
      Step s { s with store := s.store.update k f.run }
  | releaseLease (s : Session) (k : Key) : Step s { s with store := s.store.releaseLease k }
  | append (s : Session) (id : CorrelationId) (kind : Kind) (status : Status) (now : Instant) :
      Step s (s.withEntry id kind status now)
  | trim (s : Session) : Step s s.enforceHistoryCap.2

/-- A step, or a move of the card to an entry that exists, or to where nothing is discarded. -/
inductive Move : Session → Session → Prop where
  | step {s s' : Session} (step : Step s s') : Move s s'
  | turn (s : Session) (f : Fork) (inside : ∀ i, f = .below i → i < s.size) :
      Move s { s with fork := f, store := f.partition s.store }

abbrev Steps : Session → Session → Prop := Relation.ReflTransGen Step

abbrev Moves : Session → Session → Prop := Relation.ReflTransGen Move

variable {s s' : Session}

theorem Steps.moves (steps : Steps s s') : Moves s s' :=
  steps.lift id fun _ _ => Move.step

theorem Steps.aside (store : s'.store = s.store) (fork : s'.fork = s.fork)
    (viewport : s'.viewport = s.viewport) : Steps s s' :=
  .single (.aside store fork viewport)

theorem Steps.window (s : Session) (f : Viewport → Nat → Viewport)
    (keeps : ∀ v len, v.Fits len → (f v len).Fits len) : Steps s (s.moveWindow f) :=
  .single (.window s f keeps)

/-! ## Searching and streaming -/

theorem refreshSearch_steps (s : Session) : Steps s s.refreshSearch := .aside rfl rfl rfl

theorem jumpTo_steps (s : Session) (index : Nat) : Steps s (s.jumpTo index) := by
  rw [jumpTo]
  split
  · exact .refl
  · next position _ =>
      have point : Steps s { s with search := { s.search with cursor := some index } } :=
        .aside rfl rfl rfl
      exact point.trans (Steps.window _ _ fun _ _ fits => fits.select_centerOn position position)

theorem setQuery_steps (s : Session) (query : String) : Steps s (s.setQuery query) := by
  have look : Steps s { s with search := .look s.store query } := .aside rfl rfl rfl
  rw [setQuery]
  simp only
  split
  · exact look
  · exact look.trans (jumpTo_steps _ _)

theorem jumpToOption_steps (s : Session) (index : Option Nat) :
    Steps s (s.jumpToOption index).2 := by
  cases index with
  | none => exact .refl
  | some index => exact jumpTo_steps s index

theorem subscribe_steps (s : Session) (id : CorrelationId) : Steps s (s.subscribe id).2 := by
  rcases subscribe_cases s id with same | ⟨k, same⟩
  · rw [same]
  · rw [same]
    exact .aside rfl rfl rfl

theorem stopHero_steps (s : Session) : Steps s s.stopHero.2 := by
  rcases stopHero_cases s with same | ⟨tokens, id, -, same⟩
  · rw [same]
  · rw [same]
    exact .aside rfl rfl rfl

theorem reconnect_steps (s : Session) : Steps s s.reconnect.2 := by
  rw [reconnect]
  split
  · exact .refl
  · exact .aside rfl rfl rfl

/-! ## Taking in a message -/

/-- The open thoughts are closed one after the other. -/
theorem closeThoughts_steps (s : Session) (now : Instant) :
    Steps s { s with store := (s.correlator.closeThoughts s.store now).2 } := by
  rw [Correlator.closeThoughts]
  generalize s.correlator.openThoughts = thoughts
  simp only
  induction thoughts generalizing s with
  | nil => exact .refl
  | cons k thoughts ih =>
      have close : Step s { s with store := s.store.update k (Entry.closeEdit now).run } :=
        .edit s k _ fun e => (e.closeBurst_frame now).2
      exact .head close (ih { s with store := s.store.update k (Entry.closeEdit now).run })

theorem afterAppend_steps (s : Session) (now : Instant) (id : CorrelationId) (kind : Kind)
    (status : Status) :
    Steps s ({ s with store := (s.store.append id kind status now).2 }.afterAppend
      (s.store.append id kind status now).1) := by
  have entry : Step s (s.withEntry id kind status now) := .append s id kind status now
  exact .trans (.tail (.single entry) (.trim _)) (refreshSearch_steps _)

theorem start_steps (s : Session) (c : Correlator) (id : CorrelationId) (kind : Kind)
    (status : Status) (now : Instant) :
    Steps s ({ s with
      correlator := c
      store := (s.correlator.start s.store id kind status now).2.2 }.afterAppend
        (s.correlator.start s.store id kind status now).1) := by
  let closed : Session :=
    { s with correlator := c, store := (s.correlator.closeThoughts s.store now).2 }
  have close : Steps s closed := (closeThoughts_steps s now).tail (.aside rfl rfl rfl)
  exact close.trans (afterAppend_steps closed now id kind status)

theorem ingest_steps (s : Session) (m : Message) (now : Instant) :
    Steps s (s.ingest m now).2 := by
  have effect := s.correlator.apply_effect s.store m now
  rw [ingest]
  generalize s.correlator.apply s.store m now = r at effect ⊢
  cases effect with
  | refused e stale => exact .aside rfl rfl rfl
  | ignored other => exact .aside rfl rfl rfl
  | appended c id kind status => exact start_steps s c id kind status now
  | updated k f keep live => exact .single (.edit s k f keep)
  | confirmed k f keep live => exact .single (.edit s k f keep)
  | finished c k f keep live => exact .tail (.single (.edit s k f keep)) (.aside rfl rfl rfl)
  | ended k f keep live =>
      exact .tail (.tail (.single (.edit s k f keep)) (.releaseLease _ k)) (.aside rfl rfl rfl)

/-! ## Forking -/

theorem afterFork_steps (s : Session) : Steps s s.afterFork := by
  rw [afterFork]
  split
  · next position _ => exact Steps.window s _ fun v len fits => fits.reveal_detach position
  · exact .tail (Steps.window s _ fun v len fits => .scrollToEnd fits.rows_pos fits.selected_lt)
      (.trim _)

/-- The card moves, and the window with it. -/
theorem turn_moves (s : Session) (f : Fork) (inside : ∀ i, f = .below i → i < s.size) :
    Moves s (s.applyFork (.ok f, f.partition s.store)).2 :=
  .trans (.single (.turn s f inside)) (afterFork_steps _).moves

theorem moveForkUp_moves (s : Session) : Moves s s.moveForkUp.2 := by
  unfold moveForkUp Fork.moveUp
  split
  · exact .refl
  · next nonempty =>
      refine turn_moves s _ fun i below => ?_
      obtain rfl := Fork.below.inj below
      exact s.viewport.step_visible_lt nonempty .up _

theorem moveForkDown_moves (s : Session) : Moves s s.moveForkDown.2 := by
  unfold moveForkDown Fork.moveDown
  split
  · exact .refl
  · split
    · next live =>
        have same : s.fork = .live := live
        have stay : Steps s { s with fork := .live } := .single (.aside rfl same.symm rfl)
        exact Steps.moves (stay.trans (afterFork_steps _))
    · exact turn_moves s _ (Fork.belowOrLive_inside _ _)

theorem forkAt_moves (s : Session) (position : Nat) : Moves s (s.forkAt position).2 := by
  unfold forkAt Fork.moveTo
  split
  · exact .refl
  · exact turn_moves s _ (Fork.belowOrLive_inside _ _)

theorem resolveFork_moves (s : Session) : Moves s s.resolveFork := by
  rw [resolveFork]
  split
  · exact .single (.turn s .live fun i below => absurd below (by simp))
  · exact .refl

theorem cancelFork_moves (s : Session) : Moves s s.cancelFork := by
  rw [cancelFork]
  split
  · exact (resolveFork_moves s).trans (afterFork_steps _).moves
  · exact .refl

/-- Once the fork is resolved, an instruction is taken in like any message, and followed. -/
theorem submitText_moves (s : Session) (text : String) (now : Instant) :
    Moves s (s.submitText text now).2 := by
  refine (resolveFork_moves s).trans (Steps.moves ?_)
  let numbered : Session := { s.resolveFork with nextLocal := s.resolveFork.nextNumber + 1 }
  have number : Steps s.resolveFork numbered := .single (.aside rfl rfl rfl)
  have taken := number.trans (ingest_steps numbered
    (.inputSubmitted (localId s.resolveFork.nextNumber) numbered.author text) now)
  rw [submitText]
  simp only
  split
  · next same =>
      rw [same] at taken
      exact taken
  · next same =>
      rw [same] at taken
      refine (taken.trans (Steps.window _ Viewport.scrollToEnd ?_)).tail (.aside rfl rfl rfl)
      exact fun _ _ fits => .scrollToEnd fits.rows_pos fits.selected_lt

theorem submitInstruction_moves (s : Session) (text : String) (now : Instant) :
    Moves s (s.submitInstruction text now).2 := by
  unfold submitInstruction
  simp only
  split
  · exact .refl
  · exact submitText_moves s _ now

/-! ## Commands and messages -/

theorem submitDraft_moves (s : Session) (now : Instant) : Moves s (s.submitDraft now).2 := by
  let cleared : Session := { s with draft := "" }
  have clear : Steps s cleared := .single (.aside rfl rfl rfl)
  rw [submitDraft]
  simp only
  split
  · next query _ =>
      simp only
      exact Steps.moves (clear.trans (setQuery_steps cleared query))
  · simp only
    exact clear.moves.trans (submitInstruction_moves cleared s.draft now)

theorem forkAtRow_moves (s : Session) (row : Nat) (now : Instant) :
    Moves s (s.forkAtRow row now).2 := by
  rw [forkAtRow]
  split
  · exact forkAt_moves s _
  · exact .refl

/-- A command that does not move the card is made of steps. -/
theorem applyCommand_steps (s : Session) (c : Command) (now : Instant)
    (stays : (Action.handle (.command c) now).movesFork = false) :
    Steps s (s.applyCommand c now).2 := by
  cases c with
  | moveForkUp => exact absurd stays (by simp [Action.movesFork])
  | moveForkDown => exact absurd stays (by simp [Action.movesFork])
  | cancelFork => exact absurd stays (by simp [Action.movesFork])
  | forkAt position => exact absurd stays (by simp [Action.movesFork])
  | forkAtRow row => exact absurd stays (by simp [Action.movesFork])
  | submitDraft => exact absurd stays (by simp [Action.movesFork])
  | navigateUp => exact Steps.window s _ fun _ _ fits => fits.navigateUp
  | navigateDown => exact Steps.window s _ fun _ _ fits => fits.navigateDown
  | scrollUp n => exact Steps.window s _ fun _ _ fits => fits.scrollUp n
  | scrollDown n => exact Steps.window s _ fun _ _ fits => fits.scrollDown n
  | pageUp => exact Steps.window s _ fun v _ fits => fits.scrollUp v.rows
  | pageDown => exact Steps.window s _ fun v _ fits => fits.scrollDown v.rows
  | scrollToTop => exact Steps.window s _ fun _ _ fits => fits.scrollToTop
  | scrollToEnd =>
      exact Steps.window s _ fun _ _ fits => .scrollToEnd fits.rows_pos fits.selected_lt
  | resize rows => exact Steps.window s _ fun _ _ fits => fits.resize rows
  | stopHero => exact stopHero_steps s
  | draftChar c => exact Steps.aside rfl rfl rfl
  | draftBackspace => exact Steps.aside rfl rfl rfl
  | search query =>
      simp only [applyCommand]
      exact setQuery_steps s query
  | searchNext => exact jumpToOption_steps s _
  | searchPrevious => exact jumpToOption_steps s _
  | quit => exact Steps.aside rfl rfl rfl

theorem applyCommand_moves (s : Session) (c : Command) (now : Instant) :
    Moves s (s.applyCommand c now).2 := by
  cases stays : (Action.handle (.command c) now).movesFork with
  | false => exact (applyCommand_steps s c now stays).moves
  | true =>
      cases c with
      | moveForkUp => exact moveForkUp_moves s
      | moveForkDown => exact moveForkDown_moves s
      | cancelFork => exact cancelFork_moves s
      | forkAt position => exact forkAt_moves s position
      | forkAtRow row => exact forkAtRow_moves s row now
      | submitDraft => exact submitDraft_moves s now
      | _ => exact absurd stays (by simp [Action.movesFork])

theorem handle_steps (s : Session) (m : Message) (now : Instant)
    (stays : (Action.handle m now).movesFork = false) : Steps s (s.handle m now).2 := by
  cases m with
  | command c => exact applyCommand_steps s c now stays
  | connectionError reason => exact .aside rfl rfl rfl
  | connectionRestored => exact reconnect_steps s
  | _ => exact ingest_steps s _ now

theorem handle_moves (s : Session) (m : Message) (now : Instant) : Moves s (s.handle m now).2 := by
  cases m with
  | command c => exact applyCommand_moves s c now
  | _ => exact (handle_steps s _ now rfl).moves

/-! ## Actions -/

theorem perform_steps (s : Session) {a : Action} (stays : a.movesFork = false)
    (keeps : a.evicts = false) : Steps s (s.perform a) := by
  cases a with
  | handle m now => exact handle_steps s m now stays
  | setQuery query => exact setQuery_steps s query
  | searchNext => exact jumpToOption_steps s _
  | searchPrevious => exact jumpToOption_steps s _
  | subscribe id => exact subscribe_steps s id
  | cancelToken token => exact .aside rfl rfl rfl
  | stopHero => exact stopHero_steps s
  | takeOutbound => exact .aside rfl rfl rfl
  | enforceHistoryCap => exact .single (.trim s)
  | evict k => exact absurd keeps (by simp [Action.evicts])
  | _ => exact absurd stays (by simp [Action.movesFork])

theorem perform_moves (s : Session) {a : Action} (keeps : a.evicts = false) :
    Moves s (s.perform a) := by
  cases a with
  | handle m now => exact handle_moves s m now
  | moveForkUp => exact moveForkUp_moves s
  | moveForkDown => exact moveForkDown_moves s
  | forkAt position => exact forkAt_moves s position
  | cancelFork => exact cancelFork_moves s
  | submitInstruction text now => exact submitInstruction_moves s text now
  | evict k => exact absurd keeps (by simp [Action.evicts])
  | _ => exact (perform_steps s rfl rfl).moves

/-! ## Invariants -/

section Invariants

variable {motive : Session → Prop}

theorem preserves_of_step {r : Session → Session → Prop} (start : motive s)
    (path : Relation.ReflTransGen r s s') (step : ∀ s s', r s s' → motive s → motive s') :
    motive s' := by
  induction path with
  | refl => exact start
  | tail _ last ih => exact step _ _ last ih

/-- What every move and every eviction preserves, every action preserves. -/
theorem perform_preserves (start : motive s) (a : Action)
    (move : ∀ s s', Move s s' → motive s → motive s')
    (evict : ∀ k, a = .evict k → motive (s.evict k).2) : motive (s.perform a) := by
  cases evicts : a.evicts with
  | false => exact preserves_of_step start (perform_moves s evicts) move
  | true =>
      cases a with
      | evict k => exact evict k rfl
      | _ => exact absurd evicts (by simp [Action.evicts])

/-- While the card does not move, the steps are all that happens. -/
theorem perform_preserves_of_stays (start : motive s) {a : Action} (stays : a.movesFork = false)
    (step : ∀ s s', Step s s' → motive s → motive s')
    (evict : ∀ k, a = .evict k → motive (s.evict k).2) : motive (s.perform a) := by
  cases evicts : a.evicts with
  | false => exact preserves_of_step start (perform_steps s stays evicts) step
  | true =>
      cases a with
      | evict k => exact evict k rfl
      | _ => exact absurd evicts (by simp [Action.evicts])

end Invariants

end Session

end Chronicle
