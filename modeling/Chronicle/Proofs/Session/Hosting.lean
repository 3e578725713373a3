import Chronicle.Headless
import Chronicle.Proofs.Session.Output

/-!
# A tool that runs until its own completion

A store hosts a tool when the tool runs and its id, and no other, leads to it (`Store.Hosts`).  Only the message
that completes the tool can end that: a running entry is never evicted, so its key is not used again, and a
message that ends a tool finds it by its id.  So a session that hosts a tool goes on hosting it,
whatever else is handled (`Hosts.handle`).

As long as it does, the stream into the tool is alive, each chunk that comes through it is taken, and so is the
completion.
-/

namespace Chronicle

namespace Store

/-- The entry with this id and number is a running tool, and its id alone leads to it. -/
structure Hosts (s : Store) (k : Key) (id : CorrelationId) (n : Nat) : Prop where
  tool : ∃ e, s.get? k = some e ∧ e.name = (id, n) ∧ e.isWriting = true
  named : s.ids.lookup id = some k
  only : ∀ id', s.ids.lookup id' = some k → id' = id

variable {s : Store} {k k' : Key} {id : CorrelationId} {n : Nat}

theorem Hosts.keyOf?_eq (hosts : s.Hosts k id n) : s.keyOf? id = some k := by
  obtain ⟨e, found, -⟩ := hosts.tool
  exact keyOf?_eq_some.mpr ⟨hosts.named, e, found⟩

/-- A change in place that does not end the tool. -/
theorem Hosts.edit (hosts : s.Hosts k id n) (k' : Key) (f : Edit)
    (keep : k' = k → ∀ e, s.get? k = some e → e.isWriting = true → (f.run e).isWriting = true) :
    (s.update k' f.run).Hosts k id n where
  tool := by
    obtain ⟨e, found, name, writes⟩ := hosts.tool
    rw [get?_update]
    split
    · next same =>
        rw [← same, found]
        exact ⟨f.run e, rfl, (f.name_run e).trans name, keep same.symm e found writes⟩
    · exact ⟨e, found, name, writes⟩
  named := hosts.named
  only := hosts.only

/-- A change of an entry that is no running tool. -/
theorem Hosts.edit_of_idle (hosts : s.Hosts k id n) {e' : Entry} (found' : s.get? k' = some e')
    (idle : e'.isWriting = false) (f : Edit) : (s.update k' f.run).Hosts k id n := by
  refine hosts.edit k' f ?_
  rintro rfl e found writes
  obtain rfl := Option.some.inj (found'.symm.trans found)
  exact absurd (idle.symm.trans writes) Bool.false_ne_true

theorem Hosts.releaseLease (hosts : s.Hosts k id n) (k' : Key) : (s.releaseLease k').Hosts k id n where
  tool := by
    rw [get?_releaseLease]
    exact hosts.tool
  named := hosts.named
  only := hosts.only

/-- A new entry has another id and another key. -/
theorem Hosts.append (hosts : s.Hosts k id n) (sound : s.Sound) {id' : CorrelationId} (other : id' ≠ id)
    (kind : Kind) (status : Status) (now : Instant) :
    (s.append id' kind status now).2.Hosts k id n := by
  obtain ⟨e, found, name, writes⟩ := hosts.tool
  have new : (s.append id' kind status now).1 ≠ k := by
    rintro rfl
    exact sound.append_not_mem id' kind status now (sound.mem_order found)
  refine ⟨⟨e, sound.get?_append_of_some id' kind status now found, name, writes⟩, ?_, ?_⟩
  · rw [lookup_append, if_neg (Ne.symm other)]
    exact hosts.named
  · intro id'' looked
    rw [lookup_append] at looked
    split at looked
    · exact absurd (Option.some.inj looked) new
    · exact hosts.only id'' looked

/-- Taking another entry out. -/
theorem Hosts.without (hosts : s.Hosts k id n) {e' : Entry} (found' : s.get? k' = some e')
    (other : k' ≠ k) (p : Nat) (id' : CorrelationId) : (s.without k' p id').Hosts k id n := by
  obtain ⟨e, found, name, writes⟩ := hosts.tool
  refine ⟨⟨e, ?_, name, writes⟩, ?_, fun id'' looked => hosts.only id'' (lookup_of_without looked)⟩
  · rw [get?_without found', if_neg (Ne.symm other)]
    exact found
  · exact (keyOf?_eq_some.mp (keyOf?_without found' hosts.keyOf?_eq (Ne.symm other) id')).1

end Store

theorem Entry.isWriting_of_isOpen {e : Entry} (opened : e.isOpen = true) : e.isWriting = false := by
  obtain ⟨-, body, kind⟩ := isOpen_iff.mp opened
  exact isWriting_eq_false (by rw [kind]; rfl)

theorem Entry.isWriting_record {e : Entry} (p : Piece) (now : Instant) (writes : e.isWriting = true) :
    ((p.edit now).run e).isWriting = true := by
  obtain ⟨runs, tool⟩ := isWriting_iff.mp writes
  refine isWriting_iff.mpr ⟨runs, ?_⟩
  cases kind : e.kind with
  | toolUse use => simp [Piece.edit, recordEdit, Entry.record, kind, Kind.isToolUse]
  | _ => exact absurd tool (by simp [kind, Kind.isToolUse])

namespace Correlator

variable {c : Correlator} {s : Store} {m : Message} {now : Instant} {k : Key} {id : CorrelationId} {n : Nat}

theorem hosts_closeThoughts (holds : Log.Coherent ⟨c, s⟩) (hosts : s.Hosts k id n) (now : Instant) :
    (c.closeThoughts s now).2.Hosts k id n := by
  rcases closeThoughts_cases holds now with same | ⟨k', e', found', opened, same⟩
  · rw [same]
    exact hosts
  · rw [same]
    exact hosts.edit_of_idle found' (Entry.isWriting_of_isOpen opened) (Entry.closeEdit now)

/-- A message that does not complete the tool leaves it running. -/
theorem hosts_apply (holds : Log.Coherent ⟨c, s⟩) (hosts : s.Hosts k id n)
    (given : id.isMinted = false)
    (other : ∀ codes output summary, m ≠ .toolCompleted id codes output summary) (now : Instant) :
    (c.apply s m now).store.Hosts k id n := by
  have deed := c.apply_deed s m now
  generalize c.apply s m now = r at deed
  cases deed with
  | refused e stale duplicate => exact hosts
  | ignored other => exact hosts
  | started id' kind status suits names starts =>
      have closed := sound_closeThoughts c holds.sound now
      refine (hosts_closeThoughts holds hosts now).append closed ?_ kind status now
      rintro rfl
      rcases names.unused with unseen | ⟨sort, rfl⟩
      · simp [Store.hasSeen, hosts.named] at unseen
      · exact absurd (given.symm.trans rfl) Bool.false_ne_true
  | recorded found running tool p written =>
      exact hosts.edit _ (p.edit now) fun _ e _ writes => Entry.isWriting_record p now writes
  | @ended k' e' found running tool id' codes output summary is named =>
      refine (hosts.edit k' (Entry.completeEdit codes output summary now) ?_).releaseLease k'
      rintro rfl
      obtain rfl := hosts.only id' (Store.keyOf?_eq_some.mp named).1
      exact absurd is (other codes output summary)
  | thought found opened text =>
      exact hosts.edit_of_idle found (Entry.isWriting_of_isOpen opened) (Entry.thinkEdit text now)
  | thoughtLast found opened text =>
      exact hosts.edit_of_idle found (Entry.isWriting_of_isOpen opened) (Entry.thinkLastEdit text now)
  | @confirmed k' e' found instruction author text allowed =>
      refine hosts.edit_of_idle found (Entry.isWriting_eq_false ?_) (Entry.confirmEdit author text now)
      cases kind : e'.kind with
      | toolUse use => simp [kind, Kind.isInstruction] at instruction
      | _ => rfl

end Correlator

namespace Session

open Log (Tends)

variable {s : Session} {id : CorrelationId} {u : Subscription}

/-- The session hosts the tool with this id, and the subscription is a stream into it. -/
structure Hosts (s : Session) (id : CorrelationId) (u : Subscription) : Prop where
  coherent : s.log.Coherent
  leased : s.store.Leased
  tool : s.store.Hosts u.target id u.lease.serial
  slot : u.lease.index = u.target.index

theorem hosts_tends {l l' : Log} {k : Key} {n : Nat} (tends : Tends l l') (sound : l.store.Sound)
    (hosts : l.store.Hosts k id n) : l'.store.Hosts k id n := by
  refine tends.preserves (motive := fun l => l.store.Hosts k id n) sound hosts ?flag ?without
  case flag =>
    intro l k' discarded hosts
    exact hosts.edit k' (Edit.setDiscarded discarded) fun _ e _ writes => writes
  case without =>
    intro l k' e' p found' finished _ hosts
    refine hosts.without found' ?_ p e'.id
    rintro rfl
    obtain ⟨e, found, -, writes⟩ := hosts.tool
    obtain rfl := Option.some.inj (found'.symm.trans found)
    have running := Entry.isRunning_iff.mp (Entry.isWriting_iff.mp writes).1
    rw [running] at finished
    exact absurd finished (by simp [Status.isFinished])

/-- No message but its completion ends the tool. -/
theorem Hosts.handle (hosts : s.Hosts id u) (given : id.isMinted = false) {m : Message}
    (other : ∀ codes output summary, m ≠ .toolCompleted id codes output summary) (now : Instant) :
    (s.handle m now).2.Hosts id u := by
  have coherent := (perform_changes s (.handle m now)).coherent hosts.coherent
  refine ⟨coherent, leased_perform hosts.coherent hosts.leased (.handle m now), ?_, hosts.slot⟩
  have sound := hosts.coherent.sound
  rcases perform_course s (.handle m now) with ⟨s₁, m₁, now₁, taken, before, after⟩ | ⟨-, tends⟩
  · have coherent₁ := before.coherent hosts.coherent
    have hosts₁ : s₁.log.store.Hosts u.target id u.lease.serial := hosts_tends before sound hosts.tool
    have other₁ (codes : List Int) (output : String) (summary : Option String) :
        m₁ ≠ .toolCompleted id codes output summary := by
      rcases intake?_cases taken with ⟨is, -, -⟩ | ⟨draft, text, -, rfl⟩
      · obtain ⟨rfl, rfl⟩ := Action.handle.inj is
        exact other codes output summary
      · exact Message.noConfusion
    have hosts₂ : (s₁.log.take m₁ now₁).store.Hosts u.target id u.lease.serial :=
      Correlator.hosts_apply coherent₁ hosts₁ given other₁ now₁
    exact hosts_tends after (coherent₁.take m₁ now₁).sound hosts₂
  · exact hosts_tends tends sound hosts.tool

/-- The entry that the subscription is for. -/
theorem Hosts.entry (hosts : s.Hosts id u) :
    ∃ e, s.store.get? u.target = some e ∧ e.id = id ∧ e.isWriting = true ∧ u.lease = u.target.lease e := by
  obtain ⟨e, found, name, writes⟩ := hosts.tool.tool
  refine ⟨e, found, congrArg Prod.fst name, writes, ?_⟩
  have serial : e.sequence = u.lease.serial := congrArg Prod.snd name
  rw [Key.lease, serial, ← hosts.slot]

theorem Hosts.isAlive (hosts : s.Hosts id u) : u.isAlive s.store = true := by
  obtain ⟨e, found, -, writes, right⟩ := hosts.entry
  obtain ⟨runs, tool⟩ := Entry.isWriting_iff.mp writes
  rw [Subscription.isAlive, right]
  exact (hosts.leased.tool u.target e found tool).trans runs

/-- A chunk is written into the running tool of a stream, and that is all that happens. -/
def TakesChunk (s : Session) (id : CorrelationId) (u : Subscription) (chunk : String) (now : Instant) :
    Prop :=
  ∃ e, s.store.get? u.target = some e ∧ e.id = id ∧ e.status = .running ∧
    s.handle (.streamDelta u.target chunk) now =
      (true, { s with store := s.store.update u.target ((Piece.ofChunk chunk).edit now).run })

/-- The running tool of a stream is completed, and no message is counted as malformed or as late. -/
def TakesCompletion (s : Session) (id : CorrelationId) (u : Subscription) (codes : List Int)
    (output : String) (summary : Option String) (now : Instant) : Prop :=
  (s.handle (.toolCompleted id codes output summary) now).1 = true ∧
  (s.handle (.toolCompleted id codes output summary) now).2.counters = s.counters ∧
  ∃ e, s.store.get? u.target = some e ∧ e.id = id ∧ e.status = .running ∧
    (s.handle (.toolCompleted id codes output summary) now).2.store.get? u.target =
      some (e.complete codes output summary now)

theorem Hosts.takesChunk (hosts : s.Hosts id u) (chunk : String) (now : Instant) :
    s.TakesChunk id u chunk now := by
  obtain ⟨e, found, named, writes, -⟩ := hosts.entry
  have running := Entry.isRunning_iff.mp (Entry.isWriting_iff.mp writes).1
  exact ⟨e, found, named, running, handle_output s now found writes rfl⟩

theorem Hosts.takesCompletion (hosts : s.Hosts id u) (codes : List Int) (output : String)
    (summary : Option String) (now : Instant) : s.TakesCompletion id u codes output summary now := by
  obtain ⟨e, found, named, writes, -⟩ := hosts.entry
  have running := Entry.isRunning_iff.mp (Entry.isWriting_iff.mp writes).1
  obtain ⟨accepted, ended⟩ :=
    handle_completion s codes output summary now found writes hosts.tool.keyOf?_eq
  refine ⟨accepted, ?_, e, found, named, running, ended⟩
  rw [handle_eq_ingest s now rfl, ingest,
    s.correlator.apply_completion codes output summary now found writes hosts.tool.keyOf?_eq]
  rfl

/-! ## Starting a tool -/

/-- A stream into a tool that runs is given. -/
theorem subscribe_of_hosts {k : Key} {n : Nat} (leased : s.store.Leased) (hosts : s.store.Hosts k id n) :
    ∃ token tokens, s.subscribe id = (some ⟨k, ⟨k.index, n⟩, token⟩, { s with tokens }) := by
  obtain ⟨e, found, name, writes⟩ := hosts.tool
  obtain ⟨runs, tool⟩ := Entry.isWriting_iff.mp writes
  have number : e.sequence = n := congrArg Prod.snd name
  have granted := (leased.tool k e found tool).trans runs
  obtain ⟨slot, at_k, of_gen, -⟩ := Store.get?_eq_some.mp found
  have held : slot.lease = some n := by
    simpa [Store.isGranted, Key.lease, at_k, number] using granted
  have at_slot : s.store.slot? k = some slot :=
    Option.filter_eq_some_iff.mpr ⟨at_k, decide_eq_true of_gen⟩
  have right : s.store.lease? k = some ⟨k.index, n⟩ := by
    rw [Store.lease?, at_slot, Option.bind_some, held, Option.map_some]
  rw [subscribe, hosts.keyOf?_eq]
  simp only [found, right, runs, tool, Bool.and_self, if_true]
  exact ⟨_, _, rfl⟩

end Session

namespace Headless

open Session

/-- The command line's tool is started in a session in which nothing has happened, and a stream into it is
always given. -/
theorem startTool_hosts (c : Config) (command : String) (now : Instant) :
    ∃ u s, startTool (.start c) execId command now = (some u, s) ∧ s.Hosts execId u := by
  have taken : ((start c).log.take (.toolStarted execId execTool command) now).store.Hosts ⟨0, 0⟩
      execId 0 := by
    refine ⟨⟨_, rfl, rfl, rfl⟩, rfl, fun id' looked => ?_⟩
    by_contra other
    have looked : [(execId, (⟨0, 0⟩ : Key))].lookup id' = some ⟨0, 0⟩ := looked
    rw [List.lookup_cons, beq_false_of_ne other] at looked
    exact absurd looked (by simp)
  have sound := ((coherent_log_start c).take (.toolStarted execId execTool command) now).sound
  have tool : ((start c).handle (.toolStarted execId execTool command) now).2.store.Hosts ⟨0, 0⟩
      execId 0 := by
    rw [handle_eq_ingest _ now rfl]
    exact hosts_tends (ingest_tends (start c) _ now) sound taken
  have leased : ((start c).handle (.toolStarted execId execTool command) now).2.store.Leased :=
    leased_perform (coherent_log_start c) (Store.leased_empty c.retiredIds) (.handle _ now)
  have coherent := (perform_changes (start c)
    (.handle (.toolStarted execId execTool command) now)).coherent (coherent_log_start c)
  obtain ⟨token, tokens, given⟩ := subscribe_of_hosts leased tool
  exact ⟨_, _, given, coherent, leased, tool, rfl⟩

end Headless

end Chronicle
