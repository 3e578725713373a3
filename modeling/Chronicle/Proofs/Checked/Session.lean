import Chronicle.Proofs.Checked.Timeline
import Chronicle.Proofs.Session.HistoryCap
import Chronicle.Proofs.Session.Minting
import Chronicle.Proofs.Session.Submission

/-!
# The session with its assertions

What a session does once more, stopped by a `Breach` where something happens that the session relies on
never to happen: beside the assertions of the timeline, that a victim of the history cap is refused, that
flags and fork disagree after a change, and that the instruction of the user is refused.

`runChecked_eq` says that no run in which nobody forges an id is ever stopped, and that it leaves what the
run without the assertions leaves.  Two invariants carry it: `IsPartitioned` for what concerns the entries
and their flags, and `Store.Reserves` for the ids that the timeline mints.  The second is the reason for
the one hypothesis; the run below `runChecked_eq` that forges an id is stopped.
-/

namespace Chronicle

/-- The flags of a session in its invariant are as the fork says. -/
theorem Fork.Partitions.partitionHolds {f : Fork} {s : Store} (holds : f.Partitions s) :
    f.partitionHolds s = true := by
  rw [Fork.partitionHolds, List.all_eq_true]
  rintro ⟨ke, p⟩ mem
  obtain ⟨-, lt, at_p⟩ := List.mem_zipIdx mem
  have flag : s.flags[p]? = some ke.2.discarded := by
    rw [Store.flags, List.getElem?_map, List.getElem?_eq_getElem (by omega)]
    simp [at_p]
  rw [holds.flags, List.getElem?_map, List.getElem?_range (by
    rw [← holds.sound.length_entries]
    omega)] at flag
  simpa using (Option.some.inj flag).symm

namespace Session

variable {s : Session}

/-! ## Evicting -/

/-- After a change the flags have to be as the fork says. -/
def checkFlags (s : Session) : Except Breach Session :=
  if s.fork.partitionHolds s.store then .ok s else .error .flagsDisagree

def evictChecked (s : Session) (k : Key) :
    Except Breach (Except EvictionViolation Entry × Session) :=
  if s.fork.isForked then .ok (.error .forkPinned, s)
  else if (Hero.candidate? s.store).any (·.1 = k) then .ok (.error (.active k), s)
  else do
    match ← s.store.evictChecked k with
    | (.error e, store) => return (.error e, { s with store })
    | (.ok e, store) =>
      return (.ok e, { s with
        store
        tokens := s.tokens.release k
        counters := { s.counters with evicted := s.counters.evicted + 1 } })

/-- Evicts one victim, which must not be refused. -/
def evictVictimChecked (state : List Nat × Session) (victim : Nat × Key) :
    Except Breach (List Nat × Session) := do
  match ← state.2.evictChecked victim.2 with
  | (.ok _, s) => return (state.1 ++ [victim.1], s)
  | (.error v, _) => throw (.keptVictim v)

def enforceHistoryCapChecked (s : Session) : Except Breach (Nat × Session) :=
  if s.exceedsCap then do
    let (removed, s) ← s.victims.foldlM evictVictimChecked ([], s)
    if removed.isEmpty then return (0, s)
    else return (removed.length, (s.moveWindow fun v len => v.onEvicted removed len).refreshSearch)
  else .ok (0, s)

theorem IsPartitioned.checkFlags_eq (holds : s.IsPartitioned) : s.checkFlags = .ok s :=
  if_pos (Fork.Partitions.partitionHolds holds)

theorem IsPartitioned.evictChecked_eq (holds : s.IsPartitioned) (k : Key) :
    s.evictChecked k = .ok (s.evict k) := by
  rw [Session.evictChecked, Session.evict]
  split
  · rfl
  · split
    · rfl
    · rw [holds.sound.evictChecked_eq, ok_bind]
      generalize s.store.evict k = evicted
      obtain ⟨result, store⟩ := evicted
      cases result <;> rfl

/-- Every victim goes: each is finished when its turn comes. -/
theorem foldlM_evictVictimChecked (victims : List (Nat × Key)) :
    ∀ (s : Session) (removed : List Nat), s.IsPartitioned → s.fork = .live →
      (victims.map (·.2)).Nodup → s.AllFinished victims →
      victims.foldlM evictVictimChecked (removed, s) =
        .ok (victims.foldl evictVictim (removed, s)) := by
  induction victims with
  | nil =>
      intro s removed _ _ _ _
      rfl
  | cons victim victims ih =>
      intro s removed holds live nodup finished
      obtain ⟨e, p, -, -, evicted, holds', finished'⟩ := holds.evict_first live nodup finished
      have next : evictVictim (removed, s) victim =
          (removed ++ [victim.1], s.without victim.2 p e.id) := by
        rw [evictVictim, evicted]
      have taken : evictVictimChecked (removed, s) victim =
          .ok (removed ++ [victim.1], s.without victim.2 p e.id) := by
        rw [evictVictimChecked, holds.evictChecked_eq, evicted]
        rfl
      rw [List.foldlM_cons, taken, ok_bind, List.foldl_cons, next]
      exact ih _ _ holds' live (List.nodup_cons.mp nodup).2 finished'

theorem IsPartitioned.enforceHistoryCapChecked_eq (holds : s.IsPartitioned) :
    s.enforceHistoryCapChecked = .ok s.enforceHistoryCap := by
  rw [Session.enforceHistoryCapChecked, Session.enforceHistoryCap]
  split
  · next exceeds =>
      have live : s.fork = .live := by
        cases fork : s.fork with
        | live => rfl
        | below i => simp [exceedsCap, fork, Fork.isForked] at exceeds
      obtain ⟨nodup, finished⟩ := holds.victims_finished live
      rw [foldlM_evictVictimChecked s.victims s [] holds live nodup finished, ok_bind]
      generalize s.victims.foldl evictVictim ([], s) = evicted
      obtain ⟨removed, left⟩ := evicted
      simp only
      split <;> rfl
  · rfl

/-! ## Messages -/

def afterAppendChecked (s : Session) (k : Key) : Except Breach Session := do
  let s := { s with store := s.fork.markAppended s.store k }
  let (_, s) ← (s.moveWindow Viewport.onAppend).enforceHistoryCapChecked
  return s.refreshSearch

def afterOutcomeChecked (s : Session) : Outcome → Except Breach (Bool × Session)
  | .ignored => .ok (s.afterOutcome .ignored)
  | .appended k => do
    let s ← s.afterAppendChecked k
    return (true, ← s.checkFlags)
  | o => do
    let (changed, s) := s.afterOutcome o
    return (changed, ← s.checkFlags)

def ingestChecked (s : Session) (m : Message) (now : Instant) : Except Breach (Bool × Session) := do
  let r ← s.correlator.applyChecked s.store m now
  let s := { s with correlator := r.correlator, store := r.store }
  match r.result with
  | .error e => return (false, { s with counters := s.counters.refuse e })
  | .ok outcome => s.afterOutcomeChecked outcome

theorem IsPartitioned.ingest (holds : s.IsPartitioned) (m : Message) (now : Instant) :
    (s.ingest m now).2.IsPartitioned :=
  preserves_of_step holds (ingest_steps s m now) fun _ _ step holds => holds.step step

theorem IsPartitioned.ingestChecked_eq (holds : s.IsPartitioned) (reserves : s.store.Reserves)
    (m : Message) (now : Instant) : s.ingestChecked m now = .ok (s.ingest m now) := by
  have left := holds.ingest m now
  have effect := s.correlator.apply_effect s.store m now
  rw [Session.ingestChecked, s.correlator.applyChecked_eq holds.sound reserves, ok_bind]
  rw [Session.ingest] at left ⊢
  generalize s.correlator.apply s.store m now = r at effect left ⊢
  cases effect with
  | refused e stale => rfl
  | ignored other => rfl
  | appended c id kind status =>
      let started : Session := { s with
        correlator := c
        store := (s.correlator.start s.store id kind status now).2.2 }
      let entered : Session := { started with
        store := s.fork.markAppended started.store
          (s.correlator.start s.store id kind status now).1 }
      have holds' : (entered.moveWindow Viewport.onAppend).IsPartitioned :=
        Fork.Partitions.append (holds.closeThoughts now) id kind status now
      have appended : started.afterAppendChecked (s.correlator.start s.store id kind status now).1 =
          .ok (started.afterAppend (s.correlator.start s.store id kind status now).1) := by
        rw [afterAppendChecked]
        exact congrArg (· >>= _) holds'.enforceHistoryCapChecked_eq
      show started.afterOutcomeChecked (.appended _) = _
      rw [afterOutcomeChecked, appended, ok_bind]
      exact congrArg (· >>= _) left.checkFlags_eq
  | _ => exact congrArg (· >>= _) left.checkFlags_eq

/-! ## Forking -/

def afterForkChecked (s : Session) : Except Breach Session :=
  match s.fork with
  | .below position => (s.moveWindow fun v len => (v.reveal position len).detach).checkFlags
  | .live => do
    let (_, s) ← (s.moveWindow Viewport.scrollToEnd).enforceHistoryCapChecked
    s.checkFlags

def applyForkChecked (s : Session) : Except ForkError Fork × Store → Except Breach (Bool × Session)
  | (.error _, store) => .ok (false, { s with store })
  | (.ok fork, store) => do return (true, ← { s with fork, store }.afterForkChecked)

def cancelForkChecked (s : Session) : Except Breach Session :=
  if s.fork.isForked then s.resolveFork.afterForkChecked else .ok s

theorem IsPartitioned.afterForkChecked_eq (holds : s.IsPartitioned) :
    s.afterForkChecked = .ok s.afterFork := by
  have left : s.afterFork.IsPartitioned :=
    preserves_of_step holds (afterFork_steps s) fun _ _ step holds => holds.step step
  rw [Session.afterForkChecked]
  rw [Session.afterFork] at left ⊢
  cases fork : s.fork with
  | below position =>
      simp only [fork] at left
      exact left.checkFlags_eq
  | live =>
      simp only [fork] at left
      have holds' : (s.moveWindow Viewport.scrollToEnd).IsPartitioned := holds
      simp only [holds'.enforceHistoryCapChecked_eq, ok_bind]
      exact left.checkFlags_eq

/-- Wherever the card is put among the entries, the flags follow. -/
theorem IsPartitioned.applyForkChecked_turn (holds : s.IsPartitioned) (f : Fork)
    (inside : ∀ i, f = .below i → i < s.size) :
    s.applyForkChecked (.ok f, f.partition s.store) =
      .ok (s.applyFork (.ok f, f.partition s.store)) := by
  have turned : ({ s with fork := f, store := f.partition s.store } : Session).IsPartitioned :=
    holds.move (.turn s f inside)
  rw [applyForkChecked, turned.afterForkChecked_eq]
  rfl

theorem IsPartitioned.moveForkUpChecked_eq (holds : s.IsPartitioned) :
    s.applyForkChecked (s.fork.moveUp s.store s.visible) = .ok s.moveForkUp := by
  unfold Session.moveForkUp Fork.moveUp
  split
  · rfl
  · next nonempty =>
      refine holds.applyForkChecked_turn _ fun i below => ?_
      obtain rfl := Fork.below.inj below
      exact s.viewport.step_visible_lt nonempty .up _

theorem IsPartitioned.moveForkDownChecked_eq (holds : s.IsPartitioned) :
    s.applyForkChecked (s.fork.moveDown s.store s.visible) = .ok s.moveForkDown := by
  unfold Session.moveForkDown Fork.moveDown
  split
  · rfl
  · split
    · next live =>
        have stays : ({ s with fork := .live } : Session).IsPartitioned := by
          unfold IsPartitioned at holds ⊢
          rwa [live] at holds
        rw [applyForkChecked, stays.afterForkChecked_eq]
        rfl
    · exact holds.applyForkChecked_turn _ (Fork.belowOrLive_inside _ _)

theorem IsPartitioned.forkAtChecked_eq (holds : s.IsPartitioned) (position : Nat) :
    s.applyForkChecked (Fork.moveTo s.store position) = .ok (s.forkAt position) := by
  unfold Session.forkAt Fork.moveTo
  split
  · rfl
  · exact holds.applyForkChecked_turn _ (Fork.belowOrLive_inside _ _)

theorem IsPartitioned.cancelForkChecked_eq (holds : s.IsPartitioned) :
    s.cancelForkChecked = .ok s.cancelFork := by
  rw [Session.cancelForkChecked, Session.cancelFork]
  split
  · exact holds.resolveFork.afterForkChecked_eq
  · rfl

/-! ## Instructions -/

/-- The instruction, under an id that must be new, must be taken in. -/
def submitTextChecked (s : Session) (text : String) (now : Instant) :
    Except Breach (Option CorrelationId × Session) := do
  let forkAfter := s.forkAfter?
  let s := s.resolveFork
  let number := s.nextNumber
  let id := localId number
  let s := { s with nextLocal := number + 1 }
  match ← s.ingestChecked (.inputSubmitted id s.author text) now with
  | (false, _) => throw (.refusedInstruction text)
  | (true, s) =>
    let s := s.moveWindow Viewport.scrollToEnd
    return (some id, { s with outbound := s.outbound ++ [.submitInstruction id text forkAfter] })

def submitInstructionChecked (s : Session) (text : String) (now : Instant) :
    Except Breach (Option CorrelationId × Session) :=
  let text := Text.trim text
  if text.isEmpty then .ok (none, s) else s.submitTextChecked text now

def submitDraftChecked (s : Session) (now : Instant) : Except Breach (Bool × Session) :=
  let draft := s.draft
  let s := { s with draft := "" }
  match searchOf? draft with
  | some query => .ok (true, s.setQuery query)
  | none => do
    let (id, s) ← s.submitInstructionChecked draft now
    return (id.isSome, s)

theorem reserves_resolveFork (sound : s.store.Sound) (reserves : s.store.Reserves) :
    s.resolveFork.store.Reserves :=
  (resolveFork_tends s).preserves (motive := fun l => l.store.Reserves) sound reserves
    (fun _ _ _ reserves => reserves.of_ids rfl rfl)
    fun _ k e p _ _ _ reserves => reserves.without k p e.id

theorem IsPartitioned.submitTextChecked_eq (holds : s.IsPartitioned) (reserves : s.store.Reserves)
    (text : String) (now : Instant) : s.submitTextChecked text now = .ok (s.submitText text now) := by
  have holds' : s.resolveFork.numbered.IsPartitioned := holds.resolveFork
  have reserves' : s.resolveFork.numbered.store.Reserves := reserves_resolveFork holds.sound reserves
  have taken := s.resolveFork.ingest_submission text now
  have ingested := holds'.ingestChecked_eq reserves' (s.resolveFork.submission text) now
  rw [submission, numbered] at ingested taken
  rw [Session.submitTextChecked, Session.submitText]
  simp only at ingested taken ⊢
  rw [ingested, ok_bind]
  generalize Session.ingest _ _ now = r at taken
  obtain ⟨changed, left⟩ := r
  obtain rfl : changed = true := taken
  rfl

theorem IsPartitioned.submitInstructionChecked_eq (holds : s.IsPartitioned)
    (reserves : s.store.Reserves) (text : String) (now : Instant) :
    s.submitInstructionChecked text now = .ok (s.submitInstruction text now) := by
  rw [Session.submitInstructionChecked, Session.submitInstruction]
  split
  · rfl
  · exact holds.submitTextChecked_eq reserves _ now

theorem IsPartitioned.submitDraftChecked_eq (holds : s.IsPartitioned) (reserves : s.store.Reserves)
    (now : Instant) : s.submitDraftChecked now = .ok (s.submitDraft now) := by
  have cleared : ({ s with draft := "" } : Session).IsPartitioned := holds
  rw [Session.submitDraftChecked, Session.submitDraft]
  simp only
  cases searchOf? s.draft with
  | some query => rfl
  | none => exact congrArg (· >>= _) (cleared.submitInstructionChecked_eq reserves s.draft now)

/-! ## Every action -/

def forkAtRowChecked (s : Session) (row : Nat) (now : Instant) : Except Breach (Bool × Session) :=
  match s.positionOnRow? row now with
  | some position => s.applyForkChecked (Fork.moveTo s.store position)
  | none => .ok (false, s)

def applyCommandChecked (s : Session) (c : Command) (now : Instant) :
    Except Breach (Bool × Session) :=
  match c with
  | .moveForkUp => s.applyForkChecked (s.fork.moveUp s.store s.visible)
  | .moveForkDown => s.applyForkChecked (s.fork.moveDown s.store s.visible)
  | .cancelFork => do return (true, ← s.cancelForkChecked)
  | .forkAt position => s.applyForkChecked (Fork.moveTo s.store position)
  | .forkAtRow row => s.forkAtRowChecked row now
  | .submitDraft => s.submitDraftChecked now
  | c => .ok (s.applyCommand c now)

def handleChecked (s : Session) (m : Message) (now : Instant) : Except Breach (Bool × Session) :=
  match m with
  | .command c => s.applyCommandChecked c now
  | .connectionError _ => .ok (s.handle m now)
  | .connectionRestored => .ok (s.handle m now)
  | m => s.ingestChecked m now

def performChecked (s : Session) : Action → Except Breach Session
  | .handle m now => do return (← s.handleChecked m now).2
  | .moveForkUp => do return (← s.applyForkChecked (s.fork.moveUp s.store s.visible)).2
  | .moveForkDown => do return (← s.applyForkChecked (s.fork.moveDown s.store s.visible)).2
  | .forkAt position => do return (← s.applyForkChecked (Fork.moveTo s.store position)).2
  | .cancelFork => s.cancelForkChecked
  | .submitInstruction text now => do return (← s.submitInstructionChecked text now).2
  | .enforceHistoryCap => do return (← s.enforceHistoryCapChecked).2
  | .evict k => do return (← s.evictChecked k).2
  | a => .ok (s.perform a)

/-- Does one action after the other, up to the first breach. -/
def runChecked (s : Session) (actions : List Action) : Except Breach Session :=
  actions.foldlM performChecked s

theorem IsPartitioned.applyCommandChecked_eq (holds : s.IsPartitioned) (reserves : s.store.Reserves)
    (c : Command) (now : Instant) : s.applyCommandChecked c now = .ok (s.applyCommand c now) := by
  cases c with
  | moveForkUp => exact holds.moveForkUpChecked_eq
  | moveForkDown => exact holds.moveForkDownChecked_eq
  | cancelFork => exact congrArg (· >>= _) holds.cancelForkChecked_eq
  | forkAt position => exact holds.forkAtChecked_eq position
  | forkAtRow row =>
      rw [Session.applyCommandChecked, forkAtRowChecked, applyCommand, forkAtRow]
      cases s.positionOnRow? row now with
      | some position => exact holds.forkAtChecked_eq position
      | none => rfl
  | submitDraft => exact holds.submitDraftChecked_eq reserves now
  | _ => rfl

theorem IsPartitioned.handleChecked_eq (holds : s.IsPartitioned) (reserves : s.store.Reserves)
    (m : Message) (now : Instant) : s.handleChecked m now = .ok (s.handle m now) := by
  cases m with
  | command c => exact holds.applyCommandChecked_eq reserves c now
  | connectionError reason => rfl
  | connectionRestored => rfl
  | _ => exact holds.ingestChecked_eq reserves _ now

/-- No action breaks an assertion. -/
theorem IsPartitioned.performChecked_eq (holds : s.IsPartitioned) (reserves : s.store.Reserves)
    (a : Action) : s.performChecked a = .ok (s.perform a) := by
  cases a with
  | handle m now => exact congrArg (· >>= _) (holds.handleChecked_eq reserves m now)
  | moveForkUp => exact congrArg (· >>= _) holds.moveForkUpChecked_eq
  | moveForkDown => exact congrArg (· >>= _) holds.moveForkDownChecked_eq
  | forkAt position => exact congrArg (· >>= _) (holds.forkAtChecked_eq position)
  | cancelFork => exact holds.cancelForkChecked_eq
  | submitInstruction text now =>
      exact congrArg (· >>= _) (holds.submitInstructionChecked_eq reserves text now)
  | enforceHistoryCap => exact congrArg (· >>= _) holds.enforceHistoryCapChecked_eq
  | evict k => exact congrArg (· >>= _) (holds.evictChecked_eq k)
  | _ => rfl

theorem runChecked_of_partitioned (holds : s.IsPartitioned) (remembers : s.store.Remembers)
    {actions : List Action} (unforged : s.Unforged actions) :
    s.runChecked actions = .ok (s.run actions) := by
  induction actions generalizing s with
  | nil => rfl
  | cons a actions ih =>
      obtain ⟨first, rest⟩ := unforged
      rw [runChecked, List.foldlM_cons, holds.performChecked_eq remembers.reserves a, ok_bind]
      exact ih (holds.perform a) ((perform_advances remembers first).remembers remembers) rest

/-- No assertion is broken, and no branch taken that is not to be reached, in any run in which nobody forges
an id.  What `Unforged` leaves out is a message that names the minted id of an entry still to come: a minted
id that has been given may be named, and what a producer writes names none
(`Notification.isOrdinary_toMessage`). -/
theorem runChecked_eq (c : Config) (actions : List Action) (unforged : (start c).Unforged actions) :
    (start c).runChecked actions = .ok ((start c).run actions) :=
  runChecked_of_partitioned (isPartitioned_start c) (remembers_start c) unforged

/-- An id forged for the entry to come is a breach, found when that entry is appended. -/
example : ((start .standard).runChecked
    [.handle (.toolStarted (.mint "log" 1) "sh" "make") 0, .handle (.log none .info "up") 1]).map
      (fun _ => ()) = .error (.seenId (.mint "log" 1)) := by
  decide +kernel

/-- Producers that name their actions as the timeline does. -/
def rivalIds : List Action :=
  [.handle (.log none .info "up") 0, .handle (.toolStarted (.producer "log#0") "sh" "make") 1,
    .handle (.fileRead (.producer "input#3") "a" []) 2,
    .handle (.inputAcknowledged none "You" "go") 3, .submitInstruction "go on" 4,
    .handle (.taskCompleted (.producer "local#0") "done") 5, .moveForkUp, .cancelFork,
    .handle (.toolCompleted (.producer "log#0") [0] "" none) 6]

/-- With room for two entries, ids minted and taken by turns, and entries going all the time. -/
theorem runChecked_eq_rivalIds :
    (start { Config.standard with historyCap := 2 }).Unforged rivalIds ∧
      (start { Config.standard with historyCap := 2 }).runChecked rivalIds =
        .ok ((start { Config.standard with historyCap := 2 }).run rivalIds) := by
  have ordinary : ∀ a ∈ rivalIds, a.isOrdinary = true := by decide
  have unforged := (start { Config.standard with historyCap := 2 }).unforged_of_ordinary ordinary
  exact ⟨unforged, runChecked_eq _ rivalIds unforged⟩

end Session

end Chronicle
