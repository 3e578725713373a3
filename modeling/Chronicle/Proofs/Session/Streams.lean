import Chronicle.Proofs.Session.Keys

/-!
# Streams

A subscription is handed out for a tool that runs, and from then on it is alive exactly as long as that
tool runs; what is pushed through it is written into that tool, however late it is delivered, or it is
dropped and counted (`streams_run`).

Two facts about a later state carry this.  The right that the subscription holds is granted to its entry or
to none, since the right names the entry's number (`Leased.owner`).  The key that it writes to names its
entry or none, while there are generations left (`names_run`).
-/

namespace Chronicle

namespace Session

variable {s : Session} {k k' : Key} {e e' : Entry} {id : CorrelationId} {u : Subscription}
  {m : Message} {p : Piece}

/-! ## Taking output in -/

theorem isIngested_of_output? {kp : Key × Piece} (output : m.output? s.store = some kp) :
    m.isIngested = true := by
  unfold Message.output? at output
  split at output
  · rfl
  · rfl
  · rfl
  · exact absurd output (by simp)

/-- Output for a running tool is written into its entry, and nothing else changes. -/
theorem handle_output (s : Session) (now : Instant) (found : s.store.get? k = some e)
    (writes : e.isWriting = true) (output : m.output? s.store = some (k, p)) :
    s.handle m now = (true, { s with store := s.store.update k (p.edit now).run }) := by
  rw [handle_eq_ingest s now (isIngested_of_output? output), ingest,
    Correlator.apply_output s.correlator now found writes output]
  rfl

/-- A chunk for anything but a running tool is dropped and counted. -/
theorem handle_chunk_dropped (s : Session) (chunk : String) (now : Instant)
    (idle : ∀ e, s.store.get? k = some e → e.isWriting = false) :
    s.handle (.streamDelta k chunk) now =
      (false, { s with
        counters := s.counters.drop ((Message.streamDelta k chunk).isStale s.store) }) := by
  obtain ⟨refusal, refused⟩ := s.correlator.apply_chunk_refused chunk now idle
  rw [handle_eq_ingest s now rfl, ingest_of_error s refused,
    s.counters.refuse_eq_drop (refused_stale_iff refused)]

/-! ## Subscribing -/

/-- A subscription is for a running tool: it holds its key, and the right that is granted to it. -/
theorem subscribe_granted (leased : s.store.Leased)
    (given : (s.subscribe id).1 = some u) :
    s.store.keyOf? id = some u.target ∧
      ∃ e, s.store.get? u.target = some e ∧ e.isWriting = true ∧ u.lease = u.target.lease e := by
  rw [subscribe] at given
  cases known : s.store.keyOf? id with
  | none => simp [known] at given
  | some k =>
      cases found : s.store.get? k with
      | none => simp [known, found] at given
      | some e =>
          cases right : s.store.lease? k with
          | none => simp [known, found, right] at given
          | some l =>
              simp only [known, found, right] at given
              split at given
              · next writes =>
                  obtain rfl := Option.some.inj given
                  refine ⟨rfl, e, found, writes, ?_⟩
                  obtain ⟨slot, at_k, serial⟩ := Option.bind_eq_some_iff.mp right
                  obtain ⟨n, held, rfl⟩ := Option.map_eq_some_iff.mp serial
                  have granted : s.store.isGranted ⟨k.index, n⟩ = true := by
                    rw [Store.isGranted, (Option.filter_eq_some_iff.mp at_k).1]
                    simp [held]
                  obtain ⟨k', e', found', same⟩ := leased.owner _ granted
                  obtain rfl := Store.eq_of_index_eq found' found (congrArg Lease.index same)
                  obtain rfl := Option.some.inj (found.symm.trans found')
                  exact same.symm
              · exact absurd given (by simp)

/-! ## Later -/

/-- A tool stays a tool. -/
theorem isToolUse_run (holds : s.log.Coherent) (later : List Action)
    (found : s.store.get? k = some e) (found' : (s.run later).store.get? k' = some e')
    (same : e'.sequence = e.sequence) (tool : e.kind.isToolUse = true) :
    e'.kind.isToolUse = true := by
  rw [Kind.isToolUse_eq, ((follows_run holds later found found' same).2).sort, ← Kind.isToolUse_eq]
  exact tool

/-- The subscription is a stream into the tool that was `e`. -/
structure StreamsInto (s : Session) (u : Subscription) (e : Entry) : Prop where
  alive : u.isAlive s.store = true ↔
    ∃ k e', (k, e') ∈ s.store.entries ∧ e'.sequence = e.sequence ∧ e'.status = .running
  /-- What was pushed, whenever that was, is written into the tool while that runs. -/
  written : u.isAlive s.store = true → ∀ pushed chunk m, u.push pushed chunk = .ok m →
    ∃ e', s.store.get? u.target = some e' ∧ e'.sequence = e.sequence ∧ e'.status = .running ∧
      e'.kind.isToolUse = true ∧ ∀ now, s.handle m now =
        (true, { s with store := s.store.update u.target ((Piece.ofChunk chunk).edit now).run })
  /-- After that it is dropped, and one of two counters says so. -/
  dropped : u.isAlive s.store = false → ∀ pushed chunk m, u.push pushed chunk = .ok m →
    ∀ now, s.handle m now =
      (false, { s with counters := s.counters.drop (m.isStale s.store) })

theorem eq_of_push {pushed : Store} {chunk : String} (push : u.push pushed chunk = .ok m) :
    m = .streamDelta u.target chunk := by
  rw [Subscription.push] at push
  split at push
  · exact (Except.ok.inj push).symm
  · exact absurd push (by simp)

/-- A subscription to a tool that runs is a stream into that tool in every later state, while there are
generations left. -/
theorem streamsInto_run (holds : s.log.Coherent) (keyed : s.store.Keyed) (later : List Action)
    (leased : (s.run later).store.Leased) (few : (s.run later).store.gone < generationLimit)
    (found : s.store.get? u.target = some e) (writes : e.isWriting = true)
    (held : u.lease = u.target.lease e) : (s.run later).StreamsInto u e := by
  have sound : (s.run later).store.Sound := (coherent_log_run holds later).sound
  have names := names_run keyed later few (.inl ⟨e, found, rfl⟩)
  have tool := (Entry.isWriting_iff.mp writes).2
  have granted {e' : Entry} (found' : (s.run later).store.get? u.target = some e')
      (same : e'.sequence = e.sequence) : u.isAlive (s.run later).store = e'.isRunning := by
    have tool' := isToolUse_run holds later found found' same tool
    have lease : u.lease = u.target.lease e' := by rw [held, Key.lease, Key.lease, same]
    rw [Subscription.isAlive, lease]
    exact leased.tool u.target e' found' tool'
  have owned (alive : u.isAlive (s.run later).store = true) :
      ∃ e', (s.run later).store.get? u.target = some e' ∧ e'.sequence = e.sequence ∧
        e'.isRunning = true := by
    obtain ⟨k', e', found', same⟩ := leased.owner u.lease alive
    have number : e'.sequence = e.sequence := congrArg Lease.serial (same.trans held)
    obtain rfl := (follows_run holds later found found' number).1
    exact ⟨e', found', number, (granted found' number).symm.trans alive⟩
  refine ⟨?alive, ?written, ?dropped⟩
  case alive =>
    constructor
    · intro alive
      obtain ⟨e', found', number, runs⟩ := owned alive
      exact ⟨u.target, e', sound.mem_entries.mpr found', number, Entry.isRunning_iff.mp runs⟩
    · rintro ⟨k', e', mem, number, status⟩
      have found' := sound.mem_entries.mp mem
      obtain rfl := (follows_run holds later found found' number).1
      exact (granted found' number).trans (Entry.isRunning_iff.mpr status)
  case written =>
    intro alive pushed chunk m push
    obtain ⟨e', found', number, runs⟩ := owned alive
    have tool' := isToolUse_run holds later found found' number tool
    obtain rfl := eq_of_push push
    refine ⟨e', found', number, Entry.isRunning_iff.mp runs, tool', ?_⟩
    intro now
    exact handle_output _ now found' (Entry.isWriting_iff.mpr ⟨runs, tool'⟩) rfl
  case dropped =>
    intro dead pushed chunk m push now
    obtain rfl := eq_of_push push
    refine handle_chunk_dropped _ chunk now ?_
    intro e' found'
    cases writes' : e'.isWriting with
    | false => rfl
    | true =>
        have same := granted found' (names.sequence_eq found')
        rw [(Entry.isWriting_iff.mp writes').1, dead] at same
        exact absurd same Bool.false_ne_true

/-- A subscription that is handed out in a run is for a tool that runs, and whatever is done later, it is
a stream into that tool and into nothing else, if not as many entries have gone as there are generations. -/
theorem streams_run (c : Config) (before : List Action) (id : CorrelationId) (later : List Action)
    (u : Subscription) (given : (((start c).run before).subscribe id).1 = some u)
    (few : ((start c).run (before ++ .subscribe id :: later)).counters.evicted < generationLimit) :
    ∃ e, ((start c).run before).store.keyOf? id = some u.target ∧
      ((start c).run before).store.get? u.target = some e ∧ e.status = .running ∧
      e.kind.isToolUse = true ∧
      ((start c).run (before ++ .subscribe id :: later)).StreamsInto u e := by
  have holds := coherent_log_run (coherent_log_start c) before
  have keyed := keyed_run (keyed_start c) before
  have leased := leased_run c (before ++ .subscribe id :: later)
  obtain ⟨named, e, found, writes, held⟩ := subscribe_granted (leased_run c before) given
  obtain ⟨runs, tool⟩ := Entry.isWriting_iff.mp writes
  refine ⟨e, named, found, Entry.isRunning_iff.mp runs, tool, ?_⟩
  rw [← gone_run] at few
  rw [run_append] at leased few ⊢
  exact streamsInto_run holds keyed _ leased few found writes held

/-- A tool is started, subscribed to and completed. -/
theorem streams_run_completedTool :
    ∃ u e, (((start .standard).run [.handle (.toolStarted (.producer "a") "sh" "ls") 0]).subscribe
        (.producer "a")).1 = some u ∧
      ((start .standard).run [.handle (.toolStarted (.producer "a") "sh" "ls") 0,
        .subscribe (.producer "a"),
        .handle (.toolCompleted (.producer "a") [0] "" none) 1]).StreamsInto u e := by
  obtain ⟨e, -, -, -, -, streams⟩ := streams_run .standard
    [.handle (.toolStarted (.producer "a") "sh" "ls") 0] (.producer "a")
    [.handle (.toolCompleted (.producer "a") [0] "" none) 1] ⟨⟨0, 0⟩, ⟨0, 0⟩, 0⟩
    (by decide +kernel) (by decide +kernel)
  exact ⟨_, e, by decide +kernel, streams⟩

end Session

end Chronicle
