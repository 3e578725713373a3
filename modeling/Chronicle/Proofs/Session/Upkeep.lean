import Chronicle.Proofs.Session.Hosting

/-!
# Tokens and the tools they are held for

A session holds the token of a tool for as long as the tool runs, under the key of its entry.  When the
entry ends or leaves, the token is let go of in the same breath, so the next entry under that key finds
none.  `Upkeep` says this of a change of a session, and every action but a subscription is such a change
(`upkeep_perform`).

From it follows what is known of the tokens that have been handed out, whoever they have been handed out
to (`Tended`): each of them is for one entry, no entry has two, and one that is held is that of the running
tool under its key.
-/

namespace Chronicle

namespace Tokens

theorem get?_release (tokens : Tokens) (k k' : Key) :
    (tokens.release k).get? k' = if k' = k then none else tokens.get? k' := by
  rw [get?, release, lookup_filter (fun i => i ≠ k)]
  by_cases same : k' = k
  · simp [same]
  · simp [same, get?]

/-- Cancelling a token lets none go. -/
theorem cancel_eq (tokens : Tokens) (t : Nat) :
    tokens.cancel t = { tokens with cancelled := (tokens.cancel t).cancelled } := by
  rw [cancel]
  split <;> rfl

theorem obtain_of_some {tokens : Tokens} {k : Key} {t : Nat} (at_k : tokens.get? k = some t) :
    tokens.obtain k = (t, tokens) := by
  rw [obtain, at_k]

theorem obtain_of_none {tokens : Tokens} {k : Key} (at_k : tokens.get? k = none) :
    tokens.obtain k =
      (tokens.next, { tokens with next := tokens.next + 1, held := (k, tokens.next) :: tokens.held }) := by
  rw [obtain, at_k]

theorem get?_obtain_of_none {tokens : Tokens} {k : Key} (at_k : tokens.get? k = none) (k' : Key) :
    (tokens.obtain k).2.get? k' = if k' = k then some tokens.next else tokens.get? k' := by
  rw [obtain_of_none at_k, get?, List.lookup_cons]
  split
  · next same => rw [if_pos (beq_iff_eq.mp same)]
  · next other => rw [if_neg (beq_eq_false_iff_ne.mp other), get?]

end Tokens

namespace Session

variable {s s' s'' : Session} {k : Key} {e : Entry} {m : Message} {now : Instant}

/-- Tokens are let go of together with the running tools that they are held for. -/
structure Upkeep (s s' : Session) : Prop where
  sequence : s.store.nextSequence ≤ s'.store.nextSequence
  next : s'.tokens.next = s.tokens.next
  /-- A token that is held was held before, and its tool still runs. -/
  held : ∀ k t, s'.tokens.get? k = some t → s.tokens.get? k = some t ∧
    ∀ e, s.store.get? k = some e → e.isWriting = true →
      ∃ e', s'.store.get? k = some e' ∧ e'.isWriting = true ∧ e'.sequence = e.sequence
  /-- What runs is new, or it ran before and has the token that it had. -/
  runs : ∀ k e', s'.store.get? k = some e' → e'.isRunning = true →
    s.store.nextSequence ≤ e'.sequence ∨
    ∃ e, s.store.get? k = some e ∧ e.isRunning = true ∧ e.sequence = e'.sequence ∧
      s'.tokens.get? k = s.tokens.get? k

namespace Upkeep

theorem trans (first : Upkeep s s') (rest : Upkeep s' s'') : Upkeep s s'' where
  sequence := Nat.le_trans first.sequence rest.sequence
  next := rest.next.trans first.next
  held k t at_k := by
    obtain ⟨at_k', stays'⟩ := rest.held k t at_k
    obtain ⟨at_k, stays⟩ := first.held k t at_k'
    refine ⟨at_k, ?_⟩
    intro e found writes
    obtain ⟨e', found', writes', same⟩ := stays e found writes
    obtain ⟨e'', found'', writes'', same'⟩ := stays' e' found' writes'
    exact ⟨e'', found'', writes'', same'.trans same⟩
  runs k e'' found'' runs'' := by
    rcases rest.runs k e'' found'' runs'' with new | ⟨e', found', runs', same', token'⟩
    · exact .inl (Nat.le_trans first.sequence new)
    · rcases first.runs k e' found' runs' with new | ⟨e, found, runs, same, token⟩
      · exact .inl (same' ▸ new)
      · exact .inr ⟨e, found, runs, same.trans same', token'.trans token⟩

/-- What is neither about the entries nor about which tokens are held. -/
theorem aside (store : s'.store = s.store) (next : s'.tokens.next = s.tokens.next)
    (held : s'.tokens.held = s.tokens.held) : Upkeep s s' where
  sequence := Nat.le_of_eq (congrArg Store.nextSequence store.symm)
  next := next
  held k t at_k := by
    refine ⟨?_, fun e found writes => ⟨e, store ▸ found, writes, rfl⟩⟩
    rwa [Tokens.get?, held] at at_k
  runs k e' found' runs' := by
    refine .inr ⟨e', store ▸ found', runs', rfl, ?_⟩
    rw [Tokens.get?, Tokens.get?, held]

theorem refl (s : Session) : Upkeep s s := .aside rfl rfl rfl

/-- Flags are nothing to it, and entries that are finished have no token. -/
theorem of_tends (tends : Log.Tends s.log s'.log) (sound : s.store.Sound) (tokens : s'.tokens = s.tokens) :
    Upkeep s s' where
  sequence := Nat.le_of_eq (nextSequence_tends tends sound).symm
  next := congrArg Tokens.next tokens
  held k t at_k := by
    refine ⟨tokens ▸ at_k, ?_⟩
    intro e found writes
    have running := Entry.isRunning_iff.mp (Entry.isWriting_iff.mp writes).1
    obtain ⟨discarded, found'⟩ := tends.get?_of_unfinished sound found (by rw [running]; rfl)
    exact ⟨_, found', writes, rfl⟩
  runs k e' found' runs' := by
    obtain ⟨e, discarded, found, rfl⟩ := tends.get?_was sound found'
    exact .inr ⟨e, found, runs', rfl, by rw [tokens]⟩

/-- An entry changes where it stands, and neither begins to run nor stops being a running tool. -/
theorem edit (found : s.store.get? k = some e) (f : Edit)
    (runs : (f.run e).isRunning = true → e.isRunning = true)
    (writes : e.isWriting = true → (f.run e).isWriting = true)
    (store : s'.store = s.store.update k f.run) (tokens : s'.tokens = s.tokens) : Upkeep s s' where
  sequence := by
    rw [store]
    exact Nat.le_refl _
  next := congrArg Tokens.next tokens
  held k' t at_k := by
    refine ⟨tokens ▸ at_k, ?_⟩
    intro e' found' writes'
    rw [store, Store.get?_update]
    split
    · next same =>
        obtain rfl : k' = k := same
        obtain rfl := Option.some.inj (found.symm.trans found')
        exact ⟨f.run e, by rw [found]; rfl, writes writes', f.sequence_run e⟩
    · exact ⟨e', found', writes', rfl⟩
  runs k' e' found' runs' := by
    rw [store, Store.get?_update] at found'
    rw [tokens]
    split at found'
    · next same =>
        obtain rfl : k' = k := same
        rw [found] at found'
        obtain rfl := Option.some.inj found'
        exact .inr ⟨e, found, runs runs', (f.sequence_run e).symm, rfl⟩
    · exact .inr ⟨e', found', runs', rfl, rfl⟩

/-- A thought that is open runs already, and it is no tool. -/
theorem edit_open (found : s.store.get? k = some e) (opened : e.isOpen = true) (f : Edit)
    (store : s'.store = s.store.update k f.run) (tokens : s'.tokens = s.tokens) : Upkeep s s' := by
  refine .edit found f ?_ ?_ store tokens
  · intro _
    exact Entry.isRunning_iff.mpr (Entry.isOpen_iff.mp opened).1
  · intro writes
    exact absurd ((Entry.isWriting_of_isOpen opened).symm.trans writes) Bool.false_ne_true

/-- The entry of a key has ended or left, and its token is let go of. -/
theorem release (sequence : s'.store.nextSequence = s.store.nextSequence)
    (others : ∀ k', k' ≠ k → s'.store.get? k' = s.store.get? k')
    (idle : ∀ e', s'.store.get? k = some e' → e'.isRunning = false)
    (tokens : s'.tokens = s.tokens.release k) : Upkeep s s' where
  sequence := Nat.le_of_eq sequence.symm
  next := by
    rw [tokens]
    rfl
  held k' t at_k := by
    rw [tokens, Tokens.get?_release] at at_k
    split at at_k
    · exact absurd at_k (by simp)
    · next other =>
        refine ⟨at_k, ?_⟩
        intro e found writes
        exact ⟨e, (others k' other).trans found, writes, rfl⟩
  runs k' e' found' runs' := by
    by_cases same : k' = k
    · rw [same] at found'
      exact absurd ((idle e' found').symm.trans runs') Bool.false_ne_true
    · refine .inr ⟨e', (others k' same).symm.trans found', runs', rfl, ?_⟩
      rw [tokens, Tokens.get?_release, if_neg same]

/-- An entry has ended where it stands. -/
theorem finish (found : s.store.get? k = some e) (f : Edit) (ended : (f.run e).isRunning = false)
    (sequence : s'.store.nextSequence = s.store.nextSequence)
    (get? : ∀ k', s'.store.get? k' = (s.store.update k f.run).get? k')
    (tokens : s'.tokens = s.tokens.release k) : Upkeep s s' := by
  refine .release sequence ?_ ?_ tokens
  · intro k' other
    exact (get? k').trans (Store.get?_update_of_ne _ _ other)
  · intro e' found'
    rw [get?, Store.get?_update_self, found] at found'
    exact Option.some.inj found' ▸ ended

/-- A new entry stands under a key that named none. -/
theorem append (sound : s.store.Sound) (id : CorrelationId) (kind : Kind) (status : Status) (now : Instant)
    (store : s'.store = (s.store.append id kind status now).2) (tokens : s'.tokens = s.tokens) :
    Upkeep s s' where
  sequence := by
    rw [store, Store.nextSequence_append]
    exact Nat.le_succ _
  next := congrArg Tokens.next tokens
  held k t at_k := by
    refine ⟨tokens ▸ at_k, ?_⟩
    intro e found writes
    exact ⟨e, store ▸ sound.get?_append_of_some id kind status now found, writes, rfl⟩
  runs k e' found' runs' := by
    rw [store, sound.get?_append] at found'
    split at found'
    · obtain rfl := Option.some.inj found'
      exact .inl (Nat.le_refl _)
    · exact .inr ⟨e', found', runs', rfl, by rw [tokens]⟩

end Upkeep

/-! ## Entries that leave -/

theorem upkeep_evict (sound : s.store.Sound) (k : Key) : Upkeep s (s.evict k).2 := by
  rcases evict_cases sound k with ⟨v, refused⟩ | ⟨e, p, -, found, -, -, -, evicted⟩
  · rw [refused]
    exact .refl s
  · rw [evicted]
    have get? := Store.get?_without found p e.id
    refine .release (k := k) (Store.nextSequence_without _ _ _ _) ?_ ?_ rfl
    · intro k' other
      exact (get? k').trans (if_neg other)
    · intro e' found'
      exact absurd ((get? k).symm.trans found') (by simp)

theorem upkeep_enforceHistoryCap (sound : s.store.Sound) : Upkeep s s.enforceHistoryCap.2 := by
  have all : Upkeep s (s.evictAll s.victims).2 := by
    refine (evictAll_induct (motive := fun s' => s'.store.Sound ∧ Upkeep s s') ⟨sound, .refl s⟩ ?_
      s.victims).2
    rintro s' k ⟨sound', before⟩
    exact ⟨sound_evict sound' k, before.trans (upkeep_evict sound' k)⟩
  rcases enforceHistoryCap_cases s with same | ⟨-, ⟨-, same⟩ | ⟨-, same⟩⟩
  · rw [same]
    exact .refl s
  · rw [same]
    exact all
  · rw [same]
    exact all.trans (.aside rfl rfl rfl)

/-! ## Messages -/

theorem upkeep_closeThoughts (holds : s.log.Coherent) (now : Instant) :
    Upkeep s { s with store := (s.correlator.closeThoughts s.store now).2 } := by
  rcases Correlator.closeThoughts_cases holds now with same | ⟨k, e, found, opened, same⟩
  · rw [same]
    exact .refl s
  · exact .edit_open found opened (Entry.closeEdit now) same rfl

theorem upkeep_afterAppend (sound : s.store.Sound) (k : Key) : Upkeep s (s.afterAppend k) := by
  let marked : Session := { s with store := s.fork.markAppended s.store k }
  have flagged : Upkeep s marked := .of_tends (markAppended_tends s.log s.fork k) sound rfl
  have moved : Upkeep marked (marked.moveWindow Viewport.onAppend) := .aside rfl rfl rfl
  have trimmed : Upkeep (marked.moveWindow Viewport.onAppend)
      (marked.moveWindow Viewport.onAppend).enforceHistoryCap.2 :=
    upkeep_enforceHistoryCap (sound.markAppended s.fork k)
  exact ((flagged.trans moved).trans trimmed).trans (.aside rfl rfl rfl)

theorem upkeep_start (holds : s.log.Coherent) (c : Correlator) (id : CorrelationId) (kind : Kind)
    (status : Status) (now : Instant) :
    Upkeep s ({ s with
      correlator := c
      store := (s.correlator.start s.store id kind status now).2.2 }.afterAppend
        (s.correlator.start s.store id kind status now).1) := by
  have closed := s.correlator.sound_closeThoughts holds.sound now
  let started : Session :=
    { s with correlator := c, store := (s.correlator.start s.store id kind status now).2.2 }
  have appended : Upkeep { s with store := (s.correlator.closeThoughts s.store now).2 } started :=
    .append closed id kind status now rfl rfl
  exact ((upkeep_closeThoughts holds now).trans appended).trans
    (upkeep_afterAppend (closed.append id kind status now) _)

theorem upkeep_ingest (holds : s.log.Coherent) (m : Message) (now : Instant) :
    Upkeep s (s.ingest m now).2 := by
  have deed := s.correlator.apply_deed s.store m now
  rw [ingest]
  generalize s.correlator.apply s.store m now = r at deed
  cases deed with
  | refused e stale duplicate => exact .aside rfl rfl rfl
  | ignored other => exact .aside rfl rfl rfl
  | started id kind status suits names starts => exact upkeep_start holds _ id kind status now
  | recorded found running tool p written =>
      refine .edit found (p.edit now) (fun _ => running) ?_ rfl rfl
      exact Entry.isWriting_record p now
  | ended found running tool id codes output summary is named =>
      refine .finish found (Entry.completeEdit codes output summary now) ?_ rfl ?_ rfl
      · exact Entry.isRunning_complete _ codes output summary now
      · exact fun k' => Store.get?_releaseLease _ _ k'
  | thought found opened text => exact .edit_open found opened (Entry.thinkEdit text now) rfl rfl
  | thoughtLast found opened text =>
      exact .finish found (Entry.thinkLastEdit text now) rfl rfl (fun _ => rfl) rfl
  | @confirmed k e found instruction author text allowed =>
      refine .edit found (Entry.confirmEdit author text now) ?_ ?_ rfl rfl
      · intro runs
        have running : (e.confirm author text now).status = .running := Entry.isRunning_iff.mp runs
        rw [Entry.confirm_status] at running
        split at running
        · exact Entry.isRunning_iff.mpr running
        · exact absurd running (by simp)
      · intro writes
        obtain ⟨author', text', confirmed, kind⟩ := Kind.isInstruction_iff.mp instruction
        exact absurd (Entry.isWriting_iff.mp writes).2 (by simp [kind, Kind.isToolUse])

/-! ## Commands -/

theorem upkeep_afterFork (sound : s.store.Sound) : Upkeep s s.afterFork := by
  rw [afterFork]
  split
  · exact .aside rfl rfl rfl
  · have scrolled : Upkeep s (s.moveWindow Viewport.scrollToEnd) := .aside rfl rfl rfl
    exact scrolled.trans (upkeep_enforceHistoryCap sound)

theorem upkeep_turn (sound : s.store.Sound) (f : Fork) :
    Upkeep s { s with fork := f, store := f.partition s.store } :=
  .of_tends (partition_tends s.log f) sound rfl

theorem upkeep_applyFork (sound : s.store.Sound) {r : Except ForkError Fork × Store}
    (moved : s.fork.Moved s.store r) : Upkeep s (s.applyFork r).2 := by
  cases moved with
  | empty => exact .refl s
  | turned f => exact (upkeep_turn sound f).trans (upkeep_afterFork (sound.partition f))
  | stays live =>
      have stays : Upkeep s { s with fork := .live } := .aside rfl rfl rfl
      exact stays.trans (upkeep_afterFork sound)

theorem upkeep_resolveFork (sound : s.store.Sound) : Upkeep s s.resolveFork := by
  rw [resolveFork]
  split
  · exact upkeep_turn sound .live
  · exact .refl s

theorem upkeep_cancelFork (sound : s.store.Sound) : Upkeep s s.cancelFork := by
  rcases cancelFork_cases s with ⟨-, same⟩ | ⟨-, same⟩
  · rw [same]
    exact upkeep_applyFork sound (.turned .live)
  · rw [same]
    exact .refl s

theorem upkeep_forkAtRow (sound : s.store.Sound) (row : Nat) (now : Instant) :
    Upkeep s (s.forkAtRow row now).2 := by
  rw [forkAtRow]
  split
  · exact upkeep_applyFork sound (s.fork.moveTo_moved s.store _)
  · exact .refl s

theorem upkeep_jumpToOption (s : Session) (index : Option Nat) : Upkeep s (s.jumpToOption index).2 := by
  obtain ⟨search, viewport, same⟩ := jumpToOption_frame s index
  rw [same]
  exact .aside rfl rfl rfl

theorem upkeep_setQuery (s : Session) (query : String) : Upkeep s (s.setQuery query) := by
  obtain ⟨search, viewport, same⟩ := setQuery_frame s query
  rw [same]
  exact .aside rfl rfl rfl

theorem upkeep_cancelToken (s : Session) (t : Nat) (outbound : List Request) :
    Upkeep s { s with tokens := s.tokens.cancel t, outbound } := by
  rw [Tokens.cancel_eq]
  exact .aside rfl rfl rfl

theorem upkeep_stopHero (s : Session) : Upkeep s s.stopHero.2 := by
  rcases stopHero_cases s with same | ⟨tokens, id, rfl | ⟨t, rfl⟩, same⟩
  · rw [same]
    exact .refl s
  · rw [same]
    exact .aside rfl rfl rfl
  · rw [same]
    exact upkeep_cancelToken s t _

theorem upkeep_submitInstruction (holds : s.log.Coherent) (text : String) (now : Instant) :
    Upkeep s (s.submitInstruction text now).2 := by
  rcases s.submitInstruction_cases text now with ⟨-, same⟩ | ⟨-, same⟩
  · rw [same]
    exact .refl s
  · rw [same, submitText_eq]
    have numbered : Upkeep s s.resolveFork.numbered :=
      (upkeep_resolveFork holds.sound).trans (.aside rfl rfl rfl)
    have coherent : s.resolveFork.numbered.log.Coherent := (resolveFork_tends s).coherent holds
    exact (numbered.trans (upkeep_ingest coherent _ now)).trans (.aside rfl rfl rfl)

theorem upkeep_submitDraft (holds : s.log.Coherent) (now : Instant) :
    Upkeep s (s.submitDraft now).2 := by
  have cleared : Upkeep s { s with draft := "" } := .aside rfl rfl rfl
  rw [submitDraft]
  cases searchOf? s.draft with
  | some query =>
      simp only
      exact cleared.trans (upkeep_setQuery _ query)
  | none =>
      simp only
      exact cleared.trans (upkeep_submitInstruction (s := { s with draft := "" }) holds s.draft now)

theorem upkeep_applyCommand (holds : s.log.Coherent) (c : Command) (now : Instant) :
    Upkeep s (s.applyCommand c now).2 := by
  have sound : s.store.Sound := holds.sound
  cases c with
  | moveForkUp => exact upkeep_applyFork sound (s.fork.moveUp_moved s.store _)
  | moveForkDown => exact upkeep_applyFork sound (s.fork.moveDown_moved s.store _)
  | cancelFork => exact upkeep_cancelFork sound
  | forkAt position => exact upkeep_applyFork sound (s.fork.moveTo_moved s.store position)
  | forkAtRow row => exact upkeep_forkAtRow sound row now
  | stopHero => exact upkeep_stopHero s
  | submitDraft => exact upkeep_submitDraft holds now
  | search query =>
      simp only [applyCommand]
      exact upkeep_setQuery s query
  | searchNext => exact upkeep_jumpToOption s _
  | searchPrevious => exact upkeep_jumpToOption s _
  | _ => exact .aside rfl rfl rfl

theorem upkeep_handle (holds : s.log.Coherent) (m : Message) (now : Instant) :
    Upkeep s (s.handle m now).2 := by
  cases m with
  | command c => exact upkeep_applyCommand holds c now
  | connectionError reason => exact .aside rfl rfl rfl
  | connectionRestored =>
      rw [handle, reconnect]
      split <;> exact .aside rfl rfl rfl
  | _ => exact upkeep_ingest holds _ now

/-- Every action but a subscription lets go of the tokens of the tools that it ends, and of no others. -/
theorem upkeep_perform (holds : s.log.Coherent) {a : Action} (other : ∀ id, a ≠ .subscribe id) :
    Upkeep s (s.perform a) := by
  have sound : s.store.Sound := holds.sound
  cases a with
  | handle m now => exact upkeep_handle holds m now
  | moveForkUp => exact upkeep_applyFork sound (s.fork.moveUp_moved s.store _)
  | moveForkDown => exact upkeep_applyFork sound (s.fork.moveDown_moved s.store _)
  | forkAt position => exact upkeep_applyFork sound (s.fork.moveTo_moved s.store position)
  | cancelFork => exact upkeep_cancelFork sound
  | submitInstruction text now => exact upkeep_submitInstruction holds text now
  | setQuery query => exact upkeep_setQuery s query
  | searchNext => exact upkeep_jumpToOption s _
  | searchPrevious => exact upkeep_jumpToOption s _
  | subscribe id => exact absurd rfl (other id)
  | cancelToken t => exact upkeep_cancelToken s t s.outbound
  | stopHero => exact upkeep_stopHero s
  | takeOutbound => exact .aside rfl rfl rfl
  | enforceHistoryCap => exact upkeep_enforceHistoryCap sound
  | evict k => exact upkeep_evict sound k

/-! ## What has been handed out -/

/-- Of the tokens handed out, `given n t` says that `t` was given for the entry numbered `n`. -/
structure Tended (given : Nat → Nat → Prop) (s : Session) : Prop where
  known : ∀ n t, given n t → n < s.store.nextSequence ∧ t < s.tokens.next
  /-- A token that is held is that of the running tool under its key. -/
  held : ∀ k t, s.tokens.get? k = some t →
    ∃ e, s.store.get? k = some e ∧ e.isWriting = true ∧ given e.sequence t
  /-- As long as an entry runs, the token that was given for it is held. -/
  kept : ∀ k e t, s.store.get? k = some e → e.isRunning = true → given e.sequence t →
    s.tokens.get? k = some t
  single : ∀ n t t', given n t → given n t' → t = t'
  apart : ∀ n n' t, given n t → given n' t → n = n'

variable {given : Nat → Nat → Prop}

theorem Tended.congr {given' : Nat → Nat → Prop} (tended : Tended given s)
    (same : ∀ n t, given n t ↔ given' n t) : Tended given' s := by
  have : given = given' := by
    funext n t
    exact propext (same n t)
  exact this ▸ tended

theorem tended_start (c : Config) : Tended (fun _ _ => False) (start c) where
  known _ _ none := none.elim
  held k t at_k := by simp [start, Tokens.empty, Tokens.get?] at at_k
  kept _ _ _ _ _ none := none.elim
  single _ _ _ none := none.elim
  apart _ _ _ none := none.elim

theorem Tended.upkeep (tended : Tended given s) (upkeep : Upkeep s s') : Tended given s' where
  known n t handed := by
    obtain ⟨n_lt, t_lt⟩ := tended.known n t handed
    exact ⟨Nat.lt_of_lt_of_le n_lt upkeep.sequence, upkeep.next.symm ▸ t_lt⟩
  held k t at_k := by
    obtain ⟨at_k, stays⟩ := upkeep.held k t at_k
    obtain ⟨e, found, writes, handed⟩ := tended.held k t at_k
    obtain ⟨e', found', writes', same⟩ := stays e found writes
    exact ⟨e', found', writes', same ▸ handed⟩
  kept k e' t found' runs' handed := by
    rcases upkeep.runs k e' found' runs' with new | ⟨e, found, runs, same, token⟩
    · have old := (tended.known _ t handed).1
      exact absurd old (Nat.not_lt.mpr new)
    · rw [token]
      exact tended.kept k e t found runs (same ▸ handed)
  single := tended.single
  apart := tended.apart

/-- A subscription is refused, or it is for a running tool, and takes the token that is held for it, or a new
one. -/
theorem subscribe_eq (s : Session) (id : CorrelationId) :
    s.subscribe id = (none, s) ∨
    ∃ k e lease, s.store.get? k = some e ∧ e.isWriting = true ∧
      s.subscribe id =
        (some ⟨k, lease, (s.tokens.obtain k).1⟩, { s with tokens := (s.tokens.obtain k).2 }) := by
  rw [subscribe]
  split
  · exact .inl rfl
  · next k _ =>
      split
      · next e lease found _ =>
          split
          · next writes => exact .inr ⟨k, e, lease, found, writes, rfl⟩
          · exact .inl rfl
      · exact .inl rfl

/-- The token that is held is taken once more: it has been given for this entry already. -/
theorem Tended.obtain_again (tended : Tended given s) (found : s.store.get? k = some e) {t₀ : Nat}
    (at_k : s.tokens.get? k = some t₀) :
    Tended (fun n t => given n t ∨ n = e.sequence ∧ t = (s.tokens.obtain k).1)
      { s with tokens := (s.tokens.obtain k).2 } := by
  have already : given e.sequence t₀ := by
    obtain ⟨e', found', -, handed⟩ := tended.held k t₀ at_k
    obtain rfl := Option.some.inj (found.symm.trans found')
    exact handed
  rw [Tokens.obtain_of_some at_k]
  refine tended.congr fun n t => ⟨.inl, ?_⟩
  rintro (handed | ⟨rfl, rfl⟩)
  · exact handed
  · exact already

/-- A new token is taken.  Its entry runs, so whatever had been given for it before would still be held. -/
theorem Tended.obtain_new (tended : Tended given s) (sound : s.store.Sound)
    (found : s.store.get? k = some e) (writes : e.isWriting = true) (at_k : s.tokens.get? k = none) :
    Tended (fun n t => given n t ∨ n = e.sequence ∧ t = (s.tokens.obtain k).1)
      { s with tokens := (s.tokens.obtain k).2 } := by
  have same := Tokens.obtain_of_none at_k
  have get? := Tokens.get?_obtain_of_none at_k
  have none_given (t : Nat) : ¬ given e.sequence t := by
    intro handed
    have running := (Entry.isWriting_iff.mp writes).1
    exact absurd ((tended.kept k e t found running handed).symm.trans at_k) (by simp)
  have fresh (n : Nat) : ¬ given n s.tokens.next :=
    fun handed => Nat.lt_irrefl _ (tended.known n _ handed).2
  refine ⟨?known, ?held, ?kept, ?single, ?apart⟩
  case known =>
    rintro n t (handed | ⟨rfl, rfl⟩)
    · obtain ⟨n_lt, t_lt⟩ := tended.known n t handed
      refine ⟨n_lt, ?_⟩
      rw [same]
      exact Nat.lt_succ_of_lt t_lt
    · refine ⟨sound.sequence_lt_next found, ?_⟩
      rw [same]
      exact Nat.lt_succ_self _
  case held =>
    intro k' t at_k'
    rw [get?] at at_k'
    split at at_k'
    · next is_k =>
        obtain rfl := Option.some.inj at_k'
        refine ⟨e, is_k ▸ found, writes, .inr ⟨rfl, ?_⟩⟩
        rw [same]
    · obtain ⟨e', found', writes', handed⟩ := tended.held k' t at_k'
      exact ⟨e', found', writes', .inl handed⟩
  case kept =>
    rintro k' e' t found' runs' (handed | ⟨number, rfl⟩)
    · have at_k' := tended.kept k' e' t found' runs' handed
      have other : k' ≠ k := by
        rintro rfl
        exact absurd (at_k'.symm.trans at_k) (by simp)
      rw [get?, if_neg other]
      exact at_k'
    · rw [get?, if_pos (sound.key_of_sequence found' found number), same]
  case single =>
    rintro n t t' (handed | ⟨rfl, rfl⟩) (handed' | ⟨number, rfl⟩)
    · exact tended.single n t t' handed handed'
    · exact absurd (number ▸ handed) (none_given t)
    · exact absurd handed' (none_given t')
    · rfl
  case apart =>
    rintro n n' t (handed | ⟨rfl, rfl⟩) (handed' | ⟨rfl, number⟩)
    · exact tended.apart n n' t handed handed'
    · rw [number, same] at handed
      exact absurd handed (fresh n)
    · rw [same] at handed'
      exact absurd handed' (fresh n')
    · rfl

/-- Once a token has been taken for a running tool, it is given for this entry too. -/
theorem Tended.obtain (tended : Tended given s) (sound : s.store.Sound) (found : s.store.get? k = some e)
    (writes : e.isWriting = true) :
    Tended (fun n t => given n t ∨ n = e.sequence ∧ t = (s.tokens.obtain k).1)
      { s with tokens := (s.tokens.obtain k).2 } := by
  cases at_k : s.tokens.get? k with
  | some t₀ => exact tended.obtain_again found at_k
  | none => exact tended.obtain_new sound found writes at_k

end Session

end Chronicle
