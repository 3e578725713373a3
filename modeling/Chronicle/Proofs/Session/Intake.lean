import Chronicle.Proofs.Session.Moves
import Chronicle.Proofs.Session.Refusal
import Chronicle.Proofs.Session.Submission
import Chronicle.Proofs.Timeline.Log

/-!
# What an action asks of the timeline

Of all that a session holds, `Basis` is the part that decides which entries there are.  An action bears on it
in one of a few ways (`bears`): it takes a message in (`intake?`), it moves the card (`cardMove?`), it
asks for the history cap or for an eviction, it is a word about the connection, or it leaves the basis as
it was.  Commands that say the same as another action are told apart here and not any later.
-/

namespace Chronicle

namespace Session

variable {s : Session}

/-- The part of a session that messages are about. -/
def log (s : Session) : Log := ⟨s.correlator, s.store⟩

/-- The part of a session that decides which entries there are and what they say. -/
structure Basis where
  correlator : Correlator
  store : Store
  fork : Fork
  counters : Counters
  connection : Connection
  historyCap : Nat

def basis (s : Session) : Basis :=
  ⟨s.correlator, s.store, s.fork, s.counters, s.connection, s.historyCap⟩

/-! ## What changes nothing -/

theorem basis_setQuery (s : Session) (query : String) : (s.setQuery query).basis = s.basis := by
  obtain ⟨search, viewport, same⟩ := setQuery_frame s query
  rw [same]
  rfl

theorem basis_jumpToOption (s : Session) (index : Option Nat) :
    (s.jumpToOption index).2.basis = s.basis := by
  obtain ⟨search, viewport, same⟩ := jumpToOption_frame s index
  rw [same]
  rfl

theorem basis_subscribe (s : Session) (id : CorrelationId) : (s.subscribe id).2.basis = s.basis := by
  rcases subscribe_cases s id with same | ⟨k, same⟩
  · rw [same]
  · rw [same]
    rfl

theorem basis_stopHero (s : Session) : s.stopHero.2.basis = s.basis := by
  rcases stopHero_cases s with same | ⟨tokens, id, -, same⟩
  · rw [same]
  · rw [same]
    rfl

/-- A connection that is there again is counted, if it had gone. -/
theorem basis_reconnect (s : Session) :
    ∃ connection reconnects, s.reconnect.2.basis =
      { s.basis with connection, counters := { s.counters with reconnects } } := by
  rw [reconnect]
  split
  · exact ⟨s.connection, s.counters.reconnects, rfl⟩
  · exact ⟨_, _, rfl⟩

/-! ## Messages -/

/-- The message that a text becomes, unless it is blank, and the session that takes it in. -/
def instruction? (s : Session) (text : String) (now : Instant) :
    Option (Session × Message × Instant) :=
  if Text.allBlank text then none
  else some (s.resolveFork.numbered, s.resolveFork.submission (Text.trim text), now)

/-- The message that an action takes into the timeline, and the session that takes it in. -/
def intake? (s : Session) : Action → Option (Session × Message × Instant)
  | .handle (.command .submitDraft) now =>
    match searchOf? s.draft with
    | some _ => none
    | none => { s with draft := "" }.instruction? s.draft now
  | .handle m now => if m.isIngested then some (s, m, now) else none
  | .submitInstruction text now => s.instruction? text now
  | _ => none

theorem intake?_handle (s : Session) {m : Message} (ingested : m.isIngested = true) (now : Instant) :
    s.intake? (.handle m now) = some (s, m, now) := by
  cases m with
  | command c => exact absurd ingested Bool.false_ne_true
  | connectionError reason => exact absurd ingested Bool.false_ne_true
  | connectionRestored => exact absurd ingested Bool.false_ne_true
  | _ => rfl

theorem instruction?_cases (s : Session) (text : String) (now : Instant) :
    s.instruction? text now = none ∧ (s.submitInstruction text now).2 = s ∨
    ∃ s₁ m, s.instruction? text now = some (s₁, m, now) ∧
      (s.submitInstruction text now).2.basis = (s₁.ingest m now).2.basis := by
  rcases submitInstruction_cases s text now with ⟨blank, same⟩ | ⟨full, same⟩
  · refine .inl ⟨by rw [instruction?, if_pos blank], by rw [same]⟩
  · refine .inr ⟨_, _, by rw [instruction?, if_neg (by simp [full])], ?_⟩
    rw [same, submitText_eq]
    rfl

theorem of_instruction? {text : String} {now now' : Instant} {s₁ : Session} {m : Message}
    (taken : s.instruction? text now' = some (s₁, m, now)) :
    s₁ = s.resolveFork.numbered ∧ m = s.resolveFork.submission (Text.trim text) := by
  rw [instruction?] at taken
  split at taken
  · exact absurd taken (by simp)
  · obtain ⟨rfl, rfl, rfl⟩ : s.resolveFork.numbered = s₁ ∧
        s.resolveFork.submission (Text.trim text) = m ∧ now' = now := by simpa using taken
    exact ⟨rfl, rfl⟩

/-- A message is taken in as it came, or it is an instruction, for which a fork is left first. -/
theorem intake?_cases {a : Action} {s₁ : Session} {m : Message} {now : Instant}
    (taken : s.intake? a = some (s₁, m, now)) :
    a = .handle m now ∧ m.isIngested = true ∧ s₁ = s ∨
    ∃ draft text, s₁ = { s with draft }.resolveFork.numbered ∧
      m = { s with draft }.resolveFork.submission text := by
  unfold intake? at taken
  split at taken
  · split at taken
    · exact absurd taken (by simp)
    · exact .inr ⟨"", _, of_instruction? taken⟩
  · split at taken
    · next ingested =>
        obtain ⟨rfl, rfl, rfl⟩ : s = s₁ ∧ _ = m ∧ _ = now := by simpa using taken
        exact .inl ⟨rfl, ingested, rfl⟩
    · exact absurd taken (by simp)
  · exact .inr ⟨s.draft, _, of_instruction? taken⟩
  · exact absurd taken (by simp)

/-! ## The card -/

/-- Where an action puts the card, with the entries flagged for it. -/
def cardMove? (s : Session) : Action → Option (Except ForkError Fork × Store)
  | .moveForkUp | .handle (.command .moveForkUp) _ => some (s.fork.moveUp s.store s.visible)
  | .moveForkDown | .handle (.command .moveForkDown) _ => some (s.fork.moveDown s.store s.visible)
  | .forkAt position | .handle (.command (.forkAt position)) _ => some (Fork.moveTo s.store position)
  | .handle (.command (.forkAtRow row)) now => (s.positionOnRow? row now).map (Fork.moveTo s.store)
  | .cancelFork | .handle (.command .cancelFork) _ =>
    if s.fork.isForked then some (.ok .live, Fork.live.partition s.store) else none
  | _ => none

theorem moved_of_cardMove? {a : Action} {r : Except ForkError Fork × Store}
    (moved : s.cardMove? a = some r) : s.fork.Moved s.store r := by
  unfold cardMove? at moved
  split at moved
  · exact Option.some.inj moved ▸ s.fork.moveUp_moved s.store _
  · exact Option.some.inj moved ▸ s.fork.moveUp_moved s.store _
  · exact Option.some.inj moved ▸ s.fork.moveDown_moved s.store _
  · exact Option.some.inj moved ▸ s.fork.moveDown_moved s.store _
  · exact Option.some.inj moved ▸ s.fork.moveTo_moved s.store _
  · exact Option.some.inj moved ▸ s.fork.moveTo_moved s.store _
  · obtain ⟨position, -, rfl⟩ := Option.map_eq_some_iff.mp moved
    exact s.fork.moveTo_moved s.store position
  · split at moved
    · exact Option.some.inj moved ▸ .turned .live
    · exact absurd moved (by simp)
  · split at moved
    · exact Option.some.inj moved ▸ .turned .live
    · exact absurd moved (by simp)
  · exact absurd moved (by simp)

theorem cancelFork_cases (s : Session) :
    s.fork.isForked = true ∧ s.cancelFork = (s.applyFork (.ok .live, Fork.live.partition s.store)).2 ∨
    s.fork.isForked = false ∧ s.cancelFork = s := by
  rw [cancelFork]
  cases forked : s.fork.isForked with
  | true => exact .inl ⟨rfl, by rw [resolveFork, if_pos forked]; rfl⟩
  | false => exact .inr ⟨rfl, rfl⟩

/-! ## Every action -/

/-- How an action bears on the timeline. -/
inductive Bears (s : Session) (a : Action) : Prop where
  | intake (s₁ : Session) (m : Message) (now : Instant) (taken : s.intake? a = some (s₁, m, now))
      (left : (s.perform a).basis = (s₁.ingest m now).2.basis)
  | card (r : Except ForkError Fork × Store) (other : s.intake? a = none)
      (moved : s.cardMove? a = some r) (left : (s.perform a).basis = (s.applyFork r).2.basis)
  | trim (is : a = .enforceHistoryCap)
  | evict (k : Key) (is : a = .evict k)
  /-- A word about the connection, which no command is. -/
  | connection (free : ∀ c now, a ≠ .handle (.command c) now) (other : s.intake? a = none)
      (unmoved : s.cardMove? a = none) (connection : Connection) (reconnects : Nat)
      (left : (s.perform a).basis =
        { s.basis with connection, counters := { s.counters with reconnects } })
  | aside (other : s.intake? a = none) (unmoved : s.cardMove? a = none)
      (left : (s.perform a).basis = s.basis)

theorem submitInstruction_bears (s : Session) (text : String) (now : Instant) :
    s.Bears (.submitInstruction text now) := by
  rcases instruction?_cases s text now with ⟨blank, same⟩ | ⟨s₁, m, taken, left⟩
  · exact .aside blank rfl (congrArg basis same)
  · exact .intake s₁ m now taken left

theorem submitDraft_bears (s : Session) (now : Instant) :
    s.Bears (.handle (.command .submitDraft) now) := by
  let cleared : Session := { s with draft := "" }
  cases search : searchOf? s.draft with
  | some query =>
      refine .aside (by simp [intake?, search]) rfl ?_
      show (s.submitDraft now).2.basis = s.basis
      simp only [submitDraft, search]
      exact basis_setQuery cleared query
  | none =>
      have submitted : (s.submitDraft now).2 = (cleared.submitInstruction s.draft now).2 := by
        simp only [submitDraft, search]
        rfl
      rcases instruction?_cases cleared s.draft now with ⟨blank, same⟩ | ⟨s₁, m, taken, left⟩
      · refine .aside (by simpa [intake?, search] using blank) rfl ?_
        rw [perform, handle, applyCommand, submitted, same]
        rfl
      · refine .intake s₁ m now (by simpa [intake?, search] using taken) ?_
        exact (congrArg basis submitted).trans left

theorem cancelFork_bears (s : Session) : s.Bears .cancelFork := by
  rcases cancelFork_cases s with ⟨forked, same⟩ | ⟨live, same⟩
  · exact .card _ rfl (by rw [cardMove?, if_pos forked]) (congrArg basis same)
  · exact .aside rfl (by rw [cardMove?, if_neg (by simp [live])]) (congrArg basis same)

theorem forkAtRow_bears (s : Session) (row : Nat) (now : Instant) :
    s.Bears (.handle (.command (.forkAtRow row)) now) := by
  cases at_row : s.positionOnRow? row now with
  | none =>
      refine .aside rfl (by simp [cardMove?, at_row]) ?_
      show (s.forkAtRow row now).2.basis = s.basis
      rw [forkAtRow, at_row]
  | some position =>
      refine .card (Fork.moveTo s.store position) rfl (by simp [cardMove?, at_row]) ?_
      show (s.forkAtRow row now).2.basis = _
      rw [forkAtRow, at_row]
      rfl

theorem command_bears (s : Session) (c : Command) (now : Instant) :
    s.Bears (.handle (.command c) now) := by
  cases c with
  | moveForkUp => exact .card _ rfl rfl rfl
  | moveForkDown => exact .card _ rfl rfl rfl
  | forkAt position => exact .card _ rfl rfl rfl
  | forkAtRow row => exact forkAtRow_bears s row now
  | cancelFork =>
      rcases cancelFork_cases s with ⟨forked, same⟩ | ⟨live, same⟩
      · exact .card _ rfl (by rw [cardMove?, if_pos forked]) (congrArg basis same)
      · exact .aside rfl (by rw [cardMove?, if_neg (by simp [live])]) (congrArg basis same)
  | submitDraft => exact submitDraft_bears s now
  | stopHero =>
      refine .aside rfl rfl ?_
      rw [perform, handle, applyCommand]
      exact basis_stopHero s
  | search query =>
      refine .aside rfl rfl ?_
      simp only [perform, handle, applyCommand]
      exact basis_setQuery s query
  | searchNext =>
      refine .aside rfl rfl ?_
      rw [perform, handle, applyCommand]
      exact basis_jumpToOption s _
  | searchPrevious =>
      refine .aside rfl rfl ?_
      rw [perform, handle, applyCommand]
      exact basis_jumpToOption s _
  | _ => exact .aside rfl rfl rfl

theorem handle_bears (s : Session) (m : Message) (now : Instant) : s.Bears (.handle m now) := by
  cases m with
  | command c => exact command_bears s c now
  | connectionError reason =>
      exact .connection (by simp) rfl rfl (.disconnected reason) s.counters.reconnects rfl
  | connectionRestored =>
      obtain ⟨connection, reconnects, left⟩ := basis_reconnect s
      exact .connection (by simp) rfl rfl connection reconnects left
  | _ => exact .intake s _ now rfl rfl

/-- Every action bears on the timeline in one of these ways. -/
theorem bears (s : Session) (a : Action) : s.Bears a := by
  cases a with
  | handle m now => exact handle_bears s m now
  | moveForkUp => exact .card _ rfl rfl rfl
  | moveForkDown => exact .card _ rfl rfl rfl
  | forkAt position => exact .card _ rfl rfl rfl
  | cancelFork => exact cancelFork_bears s
  | submitInstruction text now => exact submitInstruction_bears s text now
  | setQuery query => exact .aside rfl rfl (basis_setQuery s query)
  | searchNext => exact .aside rfl rfl (basis_jumpToOption s _)
  | searchPrevious => exact .aside rfl rfl (basis_jumpToOption s _)
  | subscribe id => exact .aside rfl rfl (basis_subscribe s id)
  | cancelToken token => exact .aside rfl rfl rfl
  | stopHero => exact .aside rfl rfl (basis_stopHero s)
  | takeOutbound => exact .aside rfl rfl rfl
  | enforceHistoryCap => exact .trim rfl
  | evict k => exact .evict k rfl

/-! ## The cap on the history -/

theorem historyCap_enforceHistoryCap (s : Session) : s.enforceHistoryCap.2.historyCap = s.historyCap := by
  obtain ⟨store, tokens, evicted, viewport, search, same⟩ := enforceHistoryCap_frame s
  rw [same]

theorem historyCap_ingest (s : Session) (m : Message) (now : Instant) :
    (s.ingest m now).2.historyCap = s.historyCap := by
  rw [ingest]
  generalize s.correlator.apply s.store m now = r
  obtain ⟨result, correlator, store⟩ := r
  cases result with
  | error e => rfl
  | ok o =>
      cases o with
      | appended k =>
          exact historyCap_enforceHistoryCap (({ s with
            correlator, store := s.fork.markAppended store k } : Session).moveWindow Viewport.onAppend)
      | _ => rfl

theorem historyCap_afterFork (s : Session) : s.afterFork.historyCap = s.historyCap := by
  rw [afterFork]
  split
  · rfl
  · exact historyCap_enforceHistoryCap (s.moveWindow Viewport.scrollToEnd)

/-- No action changes the cap. -/
theorem historyCap_perform (s : Session) (a : Action) : (s.perform a).historyCap = s.historyCap := by
  cases bears s a with
  | intake s₁ m now taken left =>
      have same : s₁.historyCap = s.historyCap := by
        rcases intake?_cases taken with ⟨-, -, rfl⟩ | ⟨draft, text, rfl, -⟩
        · rfl
        · show ({ s with draft } : Session).resolveFork.historyCap = s.historyCap
          rw [resolveFork]
          split <;> rfl
      exact ((congrArg Basis.historyCap left).trans (historyCap_ingest s₁ m now)).trans same
  | card r other moved left =>
      have turned : (s.applyFork r).2.historyCap = s.historyCap := by
        obtain ⟨result, store⟩ := r
        cases result with
        | error e => rfl
        | ok f => exact historyCap_afterFork { s with fork := f, store }
      exact (congrArg Basis.historyCap left).trans turned
  | trim is =>
      subst is
      exact historyCap_enforceHistoryCap s
  | evict k is =>
      subst is
      obtain ⟨store, tokens, evicted, same⟩ := evict_frame s k
      rw [perform, same]
  | connection free other unmoved connection reconnects left =>
      exact congrArg Basis.historyCap left
  | aside other unmoved left => exact congrArg Basis.historyCap left

theorem run_historyCap (s : Session) (actions : List Action) :
    (s.run actions).historyCap = s.historyCap := by
  refine run_induct (motive := fun s' => s'.historyCap = s.historyCap) rfl actions ?_
  intro s' a mem same
  exact (historyCap_perform s' a).trans same

end Session

end Chronicle
