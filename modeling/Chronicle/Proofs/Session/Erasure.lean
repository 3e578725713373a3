import Chronicle.Proofs.Correlator.Unflagged
import Chronicle.Proofs.Session.Trimming

/-!
# A run without its commands

What the user asks for, instructions apart, leaves the content of the timeline alone.  Two runs are compared,
one of them without the commands of the other (`withoutCommands_run`).

Commands about the card set flags, and a fork holds back evictions.  So while there is a cap on the history
only the other commands can be left out, and then the two sessions have the same basis all along.  Without
a cap all of them can be, and the two sessions have the same basis but for the fork and the flags: no
message looks at those (`unforked_handle`).
-/

namespace Chronicle

def Message.isCommand : Message → Bool
  | command _ => true
  | _ => false

/-- The command is about the card of a fork. -/
def Command.turnsCard : Command → Bool
  | moveForkUp => true
  | moveForkDown => true
  | cancelFork => true
  | forkAt _ => true
  | forkAtRow _ => true
  | _ => false

namespace Session

variable {s t : Session} {c : Command} {m : Message}

def withoutCommands (messages : List (Message × Instant)) : List (Message × Instant) :=
  messages.filter fun mn => !mn.1.isCommand

/-- A relation between two sessions that is kept when the first one handles a command, and when both handle
some other message, holds at the end of a run and of the run without its commands. -/
theorem run_withoutCommands {motive : Session → Session → Prop}
    (messages : List (Message × Instant)) (start : motive s t)
    (command : ∀ s t c now, (.command c, now) ∈ messages → motive s t →
      motive (s.handle (.command c) now).2 t)
    (other : ∀ s t m now, m.isCommand = false → motive s t →
      motive (s.handle m now).2 (t.handle m now).2) :
    motive (s.run (handling messages)) (t.run (handling (withoutCommands messages))) := by
  induction messages generalizing s t with
  | nil => exact start
  | cons mn messages ih =>
      obtain ⟨m, now⟩ := mn
      have later : ∀ s t c now, (.command c, now) ∈ messages → motive s t →
          motive (s.handle (.command c) now).2 t :=
        fun s t c now mem => command s t c now (List.mem_cons_of_mem _ mem)
      cases is : m.isCommand with
      | true =>
          have erased : withoutCommands ((m, now) :: messages) = withoutCommands messages := by
            simp [withoutCommands, is]
          rw [erased]
          cases m with
          | command c => exact ih (command s t c now List.mem_cons_self start) later
          | _ => exact absurd is (by simp [Message.isCommand])
      | false =>
          have kept : withoutCommands ((m, now) :: messages) =
              (m, now) :: withoutCommands messages := by
            simp [withoutCommands, is]
          rw [kept]
          exact ih (other s t m now is start) later

/-! ## Commands -/

/-- A command other than to submit the draft changes nothing that counts, or it moves the card. -/
theorem basis_command (s : Session) (unsent : c ≠ .submitDraft) (now : Instant) :
    (s.handle (.command c) now).2.basis = s.basis ∨
    c.turnsCard = true ∧ ∃ r, s.fork.Moved s.store r ∧
      (s.handle (.command c) now).2.basis = (s.applyFork r).2.basis := by
  cases bears s (.handle (.command c) now) with
  | intake s₁ m now' taken left =>
      have untaken : s.intake? (.handle (.command c) now) = none := by
        cases c with
        | submitDraft => exact absurd rfl unsent
        | _ => rfl
      exact absurd (untaken.symm.trans taken) (by simp)
  | card r other moved left =>
      refine .inr ⟨?_, r, moved_of_cardMove? moved, left⟩
      cases c with
      | moveForkUp => rfl
      | moveForkDown => rfl
      | cancelFork => rfl
      | forkAt position => rfl
      | forkAtRow row => rfl
      | _ => exact absurd moved (by simp [cardMove?])
  | trim is => exact absurd is (by simp)
  | evict k is => exact absurd is (by simp)
  | connection free other unmoved connection reconnects left => exact absurd rfl (free c now)
  | aside other unmoved left => exact .inl left

/-! ## Without the fork -/

/-- The basis as it would be if there had been no fork. -/
def Basis.unforked (b : Basis) : Basis := { b with store := b.store.unflagged, fork := .live }

/-- What a message makes of a basis, if it neither comes from the user nor pushes an entry out. -/
def Basis.hear (b : Basis) (m : Message) (now : Instant) : Basis :=
  match m with
  | .connectionError reason => { b with connection := .disconnected reason }
  | .connectionRestored =>
    if b.connection.isConnected then b
    else { b with
      connection := .connected
      counters := { b.counters with reconnects := b.counters.reconnects + 1 } }
  | m =>
    { b with
      correlator := (b.correlator.apply b.store m now).correlator
      store := (b.correlator.apply b.store m now).store
      counters := match (b.correlator.apply b.store m now).result with
        | .error e => b.counters.refuse e
        | .ok _ => b.counters }

theorem enforceHistoryCap_uncapped (uncapped : s.historyCap = 0) : s.enforceHistoryCap = (0, s) := by
  have within : s.exceedsCap = false := by simp [exceedsCap, uncapped]
  rw [enforceHistoryCap, if_neg (by simp [within])]

theorem basis_afterFork (uncapped : s.historyCap = 0) : s.afterFork.basis = s.basis := by
  rw [afterFork]
  split
  · rfl
  · rw [enforceHistoryCap_uncapped (s := s.moveWindow Viewport.scrollToEnd) uncapped]
    rfl

/-- Moving the card sets flags. -/
theorem unforked_applyFork {r : Except ForkError Fork × Store} (uncapped : s.historyCap = 0)
    (moved : s.fork.Moved s.store r) : (s.applyFork r).2.basis.unforked = s.basis.unforked := by
  cases moved with
  | empty => rfl
  | turned f =>
      rw [applyFork, basis_afterFork (s := { s with fork := f, store := f.partition s.store }) uncapped]
      exact congrArg (fun store => { s.basis with store, fork := .live })
        (f.unflagged_partition s.store)
  | stays live =>
      rw [applyFork, basis_afterFork (s := { s with fork := .live }) uncapped]
      rfl

theorem unforked_ingest (now : Instant) (uncapped : s.historyCap = 0) (ingested : m.isIngested = true) :
    (s.ingest m now).2.basis.unforked = s.basis.unforked.hear m now := by
  have unflagged := s.correlator.apply_unflagged s.store now m
  have heard : s.basis.unforked.hear m now =
      { s.basis with
        fork := .live
        correlator := (s.correlator.apply s.store m now).correlator
        store := (s.correlator.apply s.store m now).store.unflagged
        counters := match (s.correlator.apply s.store m now).result with
          | .error e => s.counters.refuse e
          | .ok _ => s.counters } := by
    cases m with
    | connectionError reason => exact absurd ingested (by simp [Message.isIngested])
    | connectionRestored => exact absurd ingested (by simp [Message.isIngested])
    | command c => exact absurd ingested (by simp [Message.isIngested])
    | _ => simp only [Basis.hear, Basis.unforked, basis, unflagged, Ingested.unflagged]
  rw [heard, ingest]
  generalize s.correlator.apply s.store m now = r
  obtain ⟨result, correlator, store⟩ := r
  cases result with
  | error e => rfl
  | ok o =>
      cases o with
      | appended k =>
          let entered : Session := { s with correlator, store := s.fork.markAppended store k }
          have same := enforceHistoryCap_uncapped (s := entered.moveWindow Viewport.onAppend) uncapped
          show (entered.moveWindow Viewport.onAppend).enforceHistoryCap.2.refreshSearch.basis.unforked = _
          rw [same]
          exact congrArg (fun store => { s.basis with correlator, store, fork := .live })
            (s.fork.unflagged_markAppended store k)
      | _ => rfl

/-- Without a cap on the history, what a message does has nothing to do with the fork and the flags. -/
theorem unforked_handle (now : Instant) (uncapped : s.historyCap = 0) (free : m.isCommand = false) :
    (s.handle m now).2.basis.unforked = s.basis.unforked.hear m now := by
  cases m with
  | command c => exact absurd free (by simp [Message.isCommand])
  | connectionError reason => rfl
  | connectionRestored =>
      rw [handle, reconnect]
      simp only [Basis.hear]
      split <;> simp_all [Basis.unforked, basis]
  | _ => exact unforked_ingest now uncapped rfl

theorem historyCap_hear (b : Basis) (m : Message) (now : Instant) :
    (b.hear m now).historyCap = b.historyCap := by
  unfold Basis.hear
  split
  · rfl
  · split <;> rfl
  · rfl

/-! ## Under a cap -/

section Congruence

variable (same : s.basis = t.basis)
include same

theorem basis_evict_congr (k : Key) : (s.evict k).2.basis = (t.evict k).2.basis := by
  have store : s.store = t.store := congrArg Basis.store same
  have pinned : s.fork.isForked = t.fork.isForked := congrArg (fun b : Basis => b.fork.isForked) same
  rw [evict, evict, pinned, store]
  split
  · exact same
  · split
    · exact same
    · split
      · next left _ => exact congrArg (fun b : Basis => { b with store := left }) same
      · next left _ =>
          exact congrArg (fun b : Basis => { b with
            store := left, counters := { b.counters with evicted := b.counters.evicted + 1 } }) same

omit same in
theorem basis_evictAll_congr (victims : List (Nat × Key)) {state state' : List Nat × Session}
    (same : state.2.basis = state'.2.basis) :
    (victims.foldl evictVictim state).2.basis = (victims.foldl evictVictim state').2.basis := by
  induction victims generalizing state state' with
  | nil => exact same
  | cons victim victims ih =>
      refine ih ?_
      rw [evictVictim_snd, evictVictim_snd]
      exact basis_evict_congr same victim.2

theorem basis_enforceHistoryCap_congr :
    s.enforceHistoryCap.2.basis = t.enforceHistoryCap.2.basis := by
  have store : s.store = t.store := congrArg Basis.store same
  have fork : s.fork = t.fork := congrArg Basis.fork same
  have cap : s.historyCap = t.historyCap := congrArg Basis.historyCap same
  have exceeds : s.exceedsCap = t.exceedsCap := by
    rw [exceedsCap, exceedsCap, size, size, store, fork, cap]
  have victims : s.victims = t.victims := by
    rw [Session.victims, Session.victims, size, size, store, cap]
  rw [basis_enforceHistoryCap, basis_enforceHistoryCap, exceeds, victims]
  split
  · exact basis_evictAll_congr t.victims same
  · exact same

theorem basis_ingest_congr (m : Message) (now : Instant) :
    (s.ingest m now).2.basis = (t.ingest m now).2.basis := by
  have store : s.store = t.store := congrArg Basis.store same
  have correlator : s.correlator = t.correlator := congrArg Basis.correlator same
  rw [ingest, ingest, store, correlator]
  generalize t.correlator.apply t.store m now = r
  have entered : { s.basis with correlator := r.correlator, store := r.store } =
      { t.basis with correlator := r.correlator, store := r.store } :=
    congrArg (fun b : Basis => { b with correlator := r.correlator, store := r.store }) same
  simp only
  split
  · next e _ =>
      exact congrArg (fun b : Basis => { b with counters := b.counters.refuse e }) entered
  · next o _ =>
      cases o with
      | appended k =>
          exact basis_enforceHistoryCap_congr (congrArg (fun b : Basis =>
            { b with store := b.fork.markAppended b.store k }) entered)
      | _ => exact entered

/-- What a message does to the basis depends on nothing else. -/
theorem basis_handle_congr (free : m.isCommand = false) (now : Instant) :
    (s.handle m now).2.basis = (t.handle m now).2.basis := by
  cases m with
  | command c => exact absurd free (by simp [Message.isCommand])
  | connectionError reason =>
      exact congrArg (fun b : Basis => { b with connection := .disconnected reason }) same
  | connectionRestored =>
      have connection : s.connection = t.connection := congrArg Basis.connection same
      rw [handle, handle, reconnect, reconnect, connection]
      split
      · exact same
      · exact congrArg (fun b : Basis => { b with
          connection := .connected
          counters := { b.counters with reconnects := b.counters.reconnects + 1 } }) same
  | _ => exact basis_ingest_congr same _ now

end Congruence

/-! ## Runs -/

/-- The two sessions show the same content, if not the same flags. -/
structure SameContent (s t : Session) : Prop where
  entries : (s.store.entries.map fun ke => (ke.1, ke.2.unflagged)) =
    t.store.entries.map fun ke => (ke.1, ke.2.unflagged)
  connection : s.connection = t.connection
  malformed : s.counters.malformed = t.counters.malformed
  stale : s.counters.stale = t.counters.stale
  reconnects : s.counters.reconnects = t.counters.reconnects

theorem sameContent_of_unforked (same : s.basis.unforked = t.basis.unforked) : s.SameContent t := by
  have store : s.store.unflagged = t.store.unflagged := congrArg Basis.store same
  have counters : s.counters = t.counters := congrArg Basis.counters same
  refine ⟨?_, congrArg Basis.connection same, by rw [counters], by rw [counters], by rw [counters]⟩
  rw [← Store.entries_unflagged, store, Store.entries_unflagged]

section Runs

variable {messages : List (Message × Instant)}
  (unsent : ∀ mn ∈ messages, mn.1 ≠ .command .submitDraft)
include unsent

/-- Without a cap on the history the fork and the flags are all that the commands make a difference to. -/
theorem unforked_withoutCommands (uncapped : s.historyCap = 0) :
    (s.run (handling messages)).basis.unforked =
      (s.run (handling (withoutCommands messages))).basis.unforked := by
  have alike := run_withoutCommands
    (motive := fun s t => s.historyCap = 0 ∧ s.basis.unforked = t.basis.unforked)
    messages (s := s) (t := s) ⟨uncapped, rfl⟩ ?command ?other
  · exact alike.2
  case command =>
    rintro s t command now mem ⟨uncapped, same⟩
    have sendable : command ≠ .submitDraft := by
      rintro rfl
      exact unsent _ mem rfl
    rcases basis_command s sendable now with left | ⟨-, r, moved, left⟩
    · exact ⟨(congrArg Basis.historyCap left).trans uncapped, (congrArg Basis.unforked left).trans same⟩
    · have turned := unforked_applyFork uncapped moved
      rw [← left] at turned
      exact ⟨(congrArg Basis.historyCap turned).trans uncapped, turned.trans same⟩
  case other =>
    rintro s t m now free ⟨uncapped, same⟩
    have uncapped' : t.historyCap = 0 := (congrArg Basis.historyCap same).symm.trans uncapped
    have left := unforked_handle now uncapped free
    refine ⟨(congrArg Basis.historyCap left).trans ((historyCap_hear _ m now).trans uncapped), ?_⟩
    rw [left, unforked_handle now uncapped' free, same]

/-- As long as the card stays where it is, commands make no difference to the basis. -/
theorem basis_withoutCommands
    (still : ∀ mn ∈ messages, ∀ command, mn.1 = .command command → command.turnsCard = false) :
    (s.run (handling messages)).basis = (s.run (handling (withoutCommands messages))).basis := by
  refine run_withoutCommands (motive := fun s t => s.basis = t.basis) messages rfl ?command ?other
  case command =>
    intro s t command now mem same
    have sendable : command ≠ .submitDraft := by
      rintro rfl
      exact unsent _ mem rfl
    rcases basis_command s sendable now with left | ⟨turns, -⟩
    · exact left.trans same
    · exact absurd ((still _ mem command rfl).symm.trans turns) Bool.false_ne_true
  case other =>
    intro s t m now free same
    exact basis_handle_congr same free now

end Runs

/-- Without its commands a run leaves the same content, if there is no cap on the history, and the very
same store and count of evictions, if no command was about the card.  To submit the draft is not one of the
commands that can be left out. -/
theorem withoutCommands_run (c : Config) (messages : List (Message × Instant))
    (unsent : ∀ mn ∈ messages, mn.1 ≠ .command .submitDraft) :
    (c.historyCap = 0 →
      ((start c).run (handling messages)).SameContent
        ((start c).run (handling (withoutCommands messages)))) ∧
    ((∀ mn ∈ messages, ∀ command, mn.1 = .command command → command.turnsCard = false) →
      ((start c).run (handling messages)).store =
        ((start c).run (handling (withoutCommands messages))).store ∧
      ((start c).run (handling messages)).counters.evicted =
        ((start c).run (handling (withoutCommands messages))).counters.evicted) := by
  constructor
  · intro uncapped
    exact sameContent_of_unforked (unforked_withoutCommands (s := start c) unsent uncapped)
  · intro still
    have same := basis_withoutCommands (s := start c) unsent still
    exact ⟨congrArg Basis.store same, congrArg (fun b : Basis => b.counters.evicted) same⟩

/-- A fork below the first of two tools, without a cap; and a scrolled window over two files, of which the
cap leaves one. -/
theorem withoutCommands_run_pairs :
    ((start { Config.standard with historyCap := 0 }).run (handling
        [(.toolStarted (.producer "a") "sh" "ls", 0), (.command .moveForkUp, 1),
          (.toolStarted (.producer "b") "sh" "ls", 2)])).SameContent
      ((start { Config.standard with historyCap := 0 }).run (handling
        [(.toolStarted (.producer "a") "sh" "ls", 0),
          (.toolStarted (.producer "b") "sh" "ls", 2)])) ∧
    ((start { Config.standard with historyCap := 1 }).run (handling
        [(.fileRead (.producer "a") "a" [], 0), (.command .scrollToTop, 1),
          (.fileRead (.producer "b") "b" [], 2)])).store =
      ((start { Config.standard with historyCap := 1 }).run (handling
        [(.fileRead (.producer "a") "a" [], 0), (.fileRead (.producer "b") "b" [], 2)])).store := by
  have tools := withoutCommands_run { Config.standard with historyCap := 0 }
    [(.toolStarted (.producer "a") "sh" "ls", 0), (.command .moveForkUp, 1),
      (.toolStarted (.producer "b") "sh" "ls", 2)] (by simp)
  have files := withoutCommands_run { Config.standard with historyCap := 1 }
    [(.fileRead (.producer "a") "a" [], 0), (.command .scrollToTop, 1),
      (.fileRead (.producer "b") "b" [], 2)] (by simp)
  refine ⟨tools.1 rfl, (files.2 ?_).1⟩
  intro mn mem command is
  simp only [List.mem_cons, List.not_mem_nil, or_false] at mem
  rcases mem with rfl | rfl | rfl
  · exact absurd is (by simp)
  · obtain rfl := Message.command.inj is
    rfl
  · exact absurd is (by simp)

end Session

end Chronicle
