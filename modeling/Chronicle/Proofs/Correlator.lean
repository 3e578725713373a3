import Chronicle.Proofs.Timeline.Lifecycle

/-!
# What a message does

`Correlator.apply_deed` says it once, and what comes after looks at the cases of `Deed` and not at the code:
a message is refused and leaves the store and the open thoughts as they were, it does not concern the
timeline, it starts one entry after closing the open thoughts, or it changes one entry in place.  Each case
comes with what has been checked.

`Effect` is what is left of it when it does not matter what the entries say.  A refusal for a key that
finds nothing comes from streamed output and from nothing else (`Effect.refused`): every other message
gets its keys from the store as it stands.
-/

namespace Chronicle

/-! ## Messages -/

/-- A piece of output: its last line, and by how much the output grows. -/
structure Piece where
  line : String
  bytes : Nat
  lines : Nat
deriving DecidableEq, Repr

/-- A chunk of a stream as a piece of output.  A chunk without a line break is a line. -/
def Piece.ofChunk (chunk : String) : Piece :=
  ⟨(Text.lastFullLine? chunk).getD "", chunk.utf8ByteSize, max (Text.lines chunk).length 1⟩

/-- An entry with one more piece of output. -/
def Piece.edit (p : Piece) (now : Instant) : Edit := Entry.recordEdit p.line p.bytes p.lines now

/-- A piece of a thought: its text, whether it is the last one, and when it came. -/
structure Delta where
  text : String
  done : Bool
  time : Instant
deriving DecidableEq, Repr

/-- The status of a thought that begins with a piece. -/
def Delta.status (d : Delta) : Status := if d.done then .completed else .running

/-- A thought with one more piece. -/
def Delta.edit (d : Delta) : Edit :=
  if d.done then Entry.thinkLastEdit d.text d.time else Entry.thinkEdit d.text d.time

namespace Message

/-- The message is for the timeline: neither a command nor a word about the connection. -/
def isIngested : Message → Bool
  | connectionError _ => false
  | connectionRestored => false
  | command _ => false
  | _ => true

/-- Output for an entry that is gone. -/
def isStale (s : Store) : Message → Bool
  | streamDelta target _ => !s.contains target
  | _ => false

/-- The piece of output that a message is, with the key of the entry that it is for. -/
def output? (s : Store) : Message → Option (Key × Piece)
  | toolProgress id line bytes => (s.keyOf? id).map (·, ⟨line, bytes, 1⟩)
  | streamDelta target chunk => some (target, .ofChunk chunk)
  | log (some id) _ text => (s.keyOf? id).map (·, ⟨text, 0, 0⟩)
  | _ => none

/-- The piece of a thought that a message is, with the key of the entry that it is for. -/
def delta? (s : Store) (now : Instant) : Message → Option (Key × Delta)
  | thoughtDelta id text done => (s.keyOf? id).map (·, ⟨text, done, now⟩)
  | _ => none

/-- The id that a message names. -/
def id? : Message → Option CorrelationId
  | thoughtDelta id _ _ => some id
  | toolStarted id _ _ => some id
  | toolProgress id _ _ => some id
  | toolCompleted id _ _ _ => some id
  | fileEdit id _ _ _ => some id
  | fileRead id _ _ => some id
  | filesDeleted id _ => some id
  | log id _ _ => id
  | inputSubmitted id _ _ => some id
  | inputAcknowledged id _ _ => id
  | taskCompleted id _ => some id
  | _ => none

/-- The id under which a message starts an entry: the one it names, which has not been seen, or else
one minted for the entry, which is finished at once. -/
inductive Names (m : Message) (s : Store) : CorrelationId → Status → Prop where
  | given {id : CorrelationId} {status : Status} (named : m.id? = some id)
      (unseen : s.hasSeen id = false) : Names m s id status
  | minted (sort : String) (anonymous : m.id? = none) :
      Names m s (.mint sort s.nextSequence) .completed

theorem Names.unused {m : Message} {s : Store} {id : CorrelationId} {status : Status}
    (names : m.Names s id status) :
    s.hasSeen id = false ∨ ∃ sort, id = .mint sort s.nextSequence := by
  cases names with
  | given named unseen => exact .inl unseen
  | minted sort anonymous => exact .inr ⟨sort, rfl⟩

/-- If an entry that starts is a tool, the message says so, and the tool runs. -/
def Starts (m : Message) (id : CorrelationId) (kind : Kind) (status : Status) : Prop :=
  kind.isToolUse = true → ∃ tool command, m = toolStarted id tool command ∧
    kind = .toolUse (.start tool command) ∧ status = .running

theorem starts_of_plain {m : Message} {id : CorrelationId} {kind : Kind} {status : Status}
    (plain : kind.isToolUse = false) : m.Starts id kind status :=
  fun tool => absurd (plain.symm.trans tool) Bool.false_ne_true

end Message

namespace Correlator

/-- What a message does, in the cases that there are. -/
inductive Deed (c : Correlator) (s : Store) (m : Message) (now : Instant) : Ingested → Prop where
  /-- Nothing but streamed output is for a key that finds nothing, and an id that is refused as used
  before has been seen. -/
  | refused (e : IngestionError) (stale : ∀ k, e = .staleHandle k → m.isStale s = true)
      (duplicate : ∀ id label, e = .duplicateCorrelation id label →
        ∃ id', m.id? = some id' ∧ s.hasSeen id' = true) :
      Deed c s m now (c.refuse s e)
  | ignored (other : m.isIngested = false) : Deed c s m now ⟨.ok .ignored, c, s⟩
  /-- An entry is appended under an id that has not been seen or that is minted for it.  If it is a thought
  and runs, it is the one that is open. -/
  | started (id : CorrelationId) (kind : Kind) (status : Status) (suits : kind.Suits status)
      (names : m.Names s id status)
      (starts : m.Starts id kind status) :
      Deed c s m now
        ⟨.ok (.appended (c.start s id kind status now).1),
          { c with
            openThoughts :=
              if status == .running && kind.isThought then [(c.start s id kind status now).1]
              else [] },
          (c.start s id kind status now).2.2⟩
  /-- A running tool has written something. -/
  | recorded {k : Key} {e : Entry} (found : s.get? k = some e) (running : e.isRunning = true)
      (tool : e.kind.isToolUse = true) (p : Piece) (written : m.output? s = some (k, p)) :
      Deed c s m now ⟨.ok (.updated k), c, s.update k (p.edit now).run⟩
  /-- A running tool has ended, and loses the right to be streamed into. -/
  | ended {k : Key} {e : Entry} (found : s.get? k = some e) (running : e.isRunning = true)
      (tool : e.kind.isToolUse = true) (id : CorrelationId) (codes : List Int) (output : String)
      (summary : Option String) (is : m = .toolCompleted id codes output summary)
      (named : s.keyOf? id = some k) :
      Deed c s m now
        ⟨.ok (.finished k), c,
          (s.update k (Entry.completeEdit codes output summary now).run).releaseLease k⟩
  | thought {k : Key} {e : Entry} (found : s.get? k = some e) (opened : e.isOpen = true)
      (text : String) (written : m.delta? s now = some (k, ⟨text, false, now⟩)) :
      Deed c s m now ⟨.ok (.updated k), c, s.update k (Entry.thinkEdit text now).run⟩
  /-- The last piece of a thought has come. -/
  | thoughtLast {k : Key} {e : Entry} (found : s.get? k = some e) (opened : e.isOpen = true)
      (text : String) (written : m.delta? s now = some (k, ⟨text, true, now⟩)) :
      Deed c s m now
        ⟨.ok (.finished k), { c with openThoughts := c.openThoughts.filter (· ≠ k) },
          s.update k (Entry.thinkLastEdit text now).run⟩
  /-- An instruction is confirmed: the one that is named, or one that nobody has confirmed. -/
  | confirmed {k : Key} {e : Entry} (found : s.get? k = some e)
      (instruction : e.kind.isInstruction = true) (author text : String)
      (allowed : (∃ id, m = .inputAcknowledged (some id) author text ∧ s.keyOf? id = some k) ∨
        e.kind.IsUnconfirmed) :
      Deed c s m now ⟨.ok (.confirmed k), c, s.update k (Entry.confirmEdit author text now).run⟩

variable {c : Correlator} {s : Store} {m : Message} {now : Instant} {label : String}
  {id : CorrelationId}

/-! ## Starting an entry -/

theorem startNew_deed (c : Correlator) (s : Store) (label : String) (id : CorrelationId)
    (kind : Kind) (status : Status) (suits : kind.Suits status)
    (closed : (status == .running && kind.isThought) = false) (named : m.id? = some id)
    (starts : m.Starts id kind status) :
    Deed c s m now (c.startNew s label id kind status now) := by
  rw [startNew]
  split
  · next seen => exact .refused _ (by simp) fun _ _ _ => ⟨id, named, seen⟩
  · next unseen =>
      have started : Deed c s m now _ :=
        .started id kind status suits (.given named (Bool.eq_false_iff.mpr unseen)) starts
      rw [closed] at started
      exact started

/-- What is neither run nor waited for. -/
theorem startKnown_deed (c : Correlator) (s : Store) (label : String) (id : CorrelationId)
    (kind : Kind) (known : ¬ kind.IsUnconfirmed) (plain : kind.isToolUse = false)
    (named : m.id? = some id) : Deed c s m now (c.startNew s label id kind .completed now) :=
  startNew_deed c s label id kind .completed (Kind.suits_atOnce known plain) rfl named
    (Message.starts_of_plain plain)

/-! ## Running tools -/

theorem runningTool_error {e : IngestionError} (refused : runningTool s id label = .error e) :
    (∀ k, e ≠ .staleHandle k) ∧ ∀ id label, e ≠ .duplicateCorrelation id label := by
  unfold runningTool at refused
  repeat' split at refused
  all_goals
    simp only [Except.error.injEq, reduceCtorEq] at refused
    try simp [← refused]

theorem runningTool_eq_ok {k : Key} :
    runningTool s id label = .ok k ↔ s.keyOf? id = some k ∧
      ∃ e, s.get? k = some e ∧ e.isRunning = true ∧ e.kind.isToolUse = true := by
  unfold runningTool
  cases known : s.keyOf? id with
  | none => simp
  | some k' =>
      simp only [Option.some.injEq]
      cases found : s.get? k' with
      | none =>
          refine ⟨fun refused => absurd refused (by simp), ?_⟩
          rintro ⟨rfl, e, live, -⟩
          simp [found] at live
      | some e =>
          simp only
          constructor
          · intro running
            split at running
            · next fit =>
                obtain rfl := Except.ok.inj running
                exact ⟨rfl, e, found, by simpa using fit⟩
            · exact absurd running (by simp)
          · rintro ⟨rfl, e', found', fit⟩
            obtain rfl := Option.some.inj (found.symm.trans found')
            rw [if_pos (by simpa using fit)]

theorem updateTool_deed (c : Correlator) (s : Store) (id : CorrelationId) (label : String)
    (p : Piece) (written : ∀ k, s.keyOf? id = some k → m.output? s = some (k, p)) :
    Deed c s m now (c.updateTool s id label (p.edit now).run) := by
  rw [updateTool]
  cases running : runningTool s id label with
  | error e =>
      obtain ⟨fresh, new⟩ := runningTool_error running
      exact .refused e (fun k same => absurd same (fresh k)) fun id label same =>
        absurd same (new id label)
  | ok k =>
      obtain ⟨named, e, found, runs, tool⟩ := runningTool_eq_ok.mp running
      exact .recorded found runs tool p (written k named)

theorem streamDelta_deed (c : Correlator) (s : Store) (label : String) (target : Key)
    (chunk : String) :
    Deed c s (.streamDelta target chunk) now (c.streamDelta s label target chunk now) := by
  rw [streamDelta]
  cases found : s.get? target with
  | none =>
      exact .refused _ (fun _ _ => by simp [Message.isStale, Store.contains, found]) (by simp)
  | some e =>
      simp only
      split
      · exact .refused _ (by simp) (by simp)
      · next runs =>
          split
          · exact .refused _ (by simp) (by simp)
          · next tool =>
              exact .recorded found (by simpa using runs) (by simpa using tool) (.ofChunk chunk) rfl

theorem completeTool_deed (c : Correlator) (s : Store) (label : String) (id : CorrelationId)
    (codes : List Int) (output : String) (summary : Option String) :
    Deed c s (.toolCompleted id codes output summary) now
      (c.completeTool s label id codes output summary now) := by
  rw [completeTool]
  cases running : runningTool s id label with
  | error e =>
      obtain ⟨fresh, new⟩ := runningTool_error running
      exact .refused e (fun k same => absurd same (fresh k)) fun id label same =>
        absurd same (new id label)
  | ok k =>
      obtain ⟨named, e, found, runs, tool⟩ := runningTool_eq_ok.mp running
      exact .ended found runs tool id codes output summary rfl named

/-! ## Thoughts -/

theorem contains_of_keyOf? {k : Key} (known : s.keyOf? id = some k) : s.contains k = true :=
  (Option.filter_eq_some_iff.mp known).2

theorem hasSeen_of_keyOf? {k : Key} (known : s.keyOf? id = some k) : s.hasSeen id = true := by
  rw [Store.hasSeen, (Option.filter_eq_some_iff.mp known).1]
  rfl

theorem thoughtDelta_deed (c : Correlator) (s : Store) (label : String) (id : CorrelationId)
    (text : String) (done : Bool) :
    Deed c s (.thoughtDelta id text done) now (c.thoughtDelta s label id text done now) := by
  rw [thoughtDelta]
  cases known : s.keyOf? id with
  | none =>
      simp only
      split
      · next seen => exact .refused _ (by simp) fun _ _ _ => ⟨id, rfl, seen⟩
      · next unseen =>
          have unseen : s.hasSeen id = false := Bool.eq_false_iff.mpr unseen
          cases done with
          | true =>
              exact .started id (.thought text) .completed
                (Kind.suits_atOnce (by simp [Kind.IsUnconfirmed]) rfl) (.given rfl unseen)
                (Message.starts_of_plain rfl)
          | false =>
              exact .started id (.thought text) .running
                (Kind.suits_running.mpr (.inr ⟨text, rfl⟩)) (.given rfl unseen)
                (Message.starts_of_plain rfl)
  | some k =>
      obtain ⟨e, found⟩ := Option.isSome_iff_exists.mp (contains_of_keyOf? known)
      simp only [found]
      split
      · exact .refused _ (by simp) fun _ _ _ => ⟨id, rfl, hasSeen_of_keyOf? known⟩
      · next thought =>
          split
          · exact .refused _ (by simp) (by simp)
          · next runs =>
              have opened : e.isOpen = true := by
                rw [Entry.isOpen, Bool.and_eq_true]
                exact ⟨by simpa using runs, by simpa using thought⟩
              have written : (Message.thoughtDelta id text done).delta? s now =
                  some (k, ⟨text, done, now⟩) := by
                rw [Message.delta?, known]
                rfl
              cases done with
              | true => exact .thoughtLast found opened text written
              | false => exact .thought found opened text written

/-! ## Acknowledgements -/

/-- The instruction that is found waits, and none of the entries after it is one that waits. -/
theorem latestUnconfirmed?_split {k : Key} {text : String}
    (latest : latestUnconfirmed? s = some (k, text)) :
    ∃ before e after author, s.entries = before ++ (k, e) :: after ∧
      e.kind = .instruction author text false ∧
      ∀ ke ∈ after, ∀ author existing, ke.2.kind ≠ .instruction author existing false := by
  obtain ⟨after, ⟨k', e⟩, before, split, is, none_after⟩ := List.findSome?_eq_some_iff.mp latest
  simp only at is
  split at is
  · next author text' kind =>
      obtain ⟨rfl, rfl⟩ := Prod.mk.inj (Option.some.inj is)
      refine ⟨before.reverse, e, after.reverse, author, ?_, kind, ?_⟩
      · rw [← List.reverse_reverse s.entries, split]
        simp
      · rintro ⟨k', e'⟩ mem author' existing kind'
        have not_found := none_after (k', e') (List.mem_reverse.mp mem)
        simp only at kind' not_found
        rw [kind'] at not_found
        exact absurd not_found (by simp)
  · exact absurd is (by simp)

/-- What is found as the latest unconfirmed instruction is one, with the text that is given. -/
theorem latestUnconfirmed?_found {k : Key} {text : String}
    (latest : latestUnconfirmed? s = some (k, text)) :
    ∃ e author, s.get? k = some e ∧ e.kind = .instruction author text false := by
  obtain ⟨before, e, after, author, split, kind, -⟩ := latestUnconfirmed?_split latest
  have mem : (k, e) ∈ s.entries := by simp [split]
  exact ⟨e, author, (Store.mem_entries.mp mem).2, kind⟩

theorem similarInstruction?_eq_some {text : String} {k : Key} :
    c.similarInstruction? s text = some k ↔
      ∃ existing, latestUnconfirmed? s = some (k, existing) ∧
        Text.alike existing text c.threshold = true := by
  simp only [similarInstruction?, Option.bind_eq_some_iff, Prod.exists]
  constructor
  · rintro ⟨k', existing, latest, similar⟩
    split at similar
    · next alike =>
        obtain rfl := Option.some.inj similar
        exact ⟨existing, latest, alike⟩
    · exact absurd similar (by simp)
  · rintro ⟨existing, latest, alike⟩
    exact ⟨k, existing, latest, if_pos alike⟩

/-- The entry that is acknowledged is there, and has the id that is named, or nobody has confirmed it. -/
theorem acknowledged?_cases {id : Option CorrelationId} {text : String} {k : Key}
    (target : c.acknowledged? s id text = some k) :
    ∃ e, s.get? k = some e ∧
      ((∃ id', id = some id' ∧ s.keyOf? id' = some k) ∨ e.kind.IsUnconfirmed) := by
  unfold acknowledged? at target
  split at target
  · next known =>
      obtain rfl := Option.some.inj target
      obtain ⟨id', is, known⟩ := Option.bind_eq_some_iff.mp known
      obtain ⟨e, found⟩ := Option.isSome_iff_exists.mp (contains_of_keyOf? known)
      exact ⟨e, found, .inl ⟨id', is, known⟩⟩
  · obtain ⟨existing, latest, -⟩ := similarInstruction?_eq_some.mp target
    obtain ⟨e, author, found, kind⟩ := latestUnconfirmed?_found latest
    exact ⟨e, found, .inr ⟨author, existing, kind⟩⟩

theorem acknowledge_deed (c : Correlator) (s : Store) (label : String)
    (id : Option CorrelationId) (author text : String) :
    Deed c s (.inputAcknowledged id author text) now (c.acknowledge s label id author text now) := by
  rw [acknowledge]
  cases target : c.acknowledged? s id text with
  | some k =>
      obtain ⟨e, found, allowed⟩ := acknowledged?_cases target
      simp only [found]
      split
      · next other =>
          refine .refused _ (by simp) fun _ _ _ => ?_
          rcases allowed with ⟨id', rfl, known⟩ | unconfirmed
          · exact ⟨id', rfl, hasSeen_of_keyOf? known⟩
          · exact absurd unconfirmed.isInstruction (by simpa using other)
      · next instruction =>
          refine .confirmed found (by simpa using instruction) author text (allowed.imp_left ?_)
          rintro ⟨id', rfl, named⟩
          exact ⟨id', rfl, named⟩
  | none =>
      have suits := Entry.suits_confirmed author text
      cases id with
      | some id =>
          exact startNew_deed c s label id _ .completed suits rfl rfl (Message.starts_of_plain rfl)
      | none =>
          exact .started _ _ .completed suits (.minted "input" rfl) (Message.starts_of_plain rfl)

/-! ## Every message -/

theorem apply_deed (c : Correlator) (s : Store) (m : Message) (now : Instant) :
    Deed c s m now (c.apply s m now) := by
  have unconfirmed (kind : Kind) (other : kind.isInstruction = false) : ¬ kind.IsUnconfirmed :=
    fun waits => absurd (other.symm.trans waits.isInstruction) Bool.false_ne_true
  cases m with
  | thoughtDelta id text done => exact thoughtDelta_deed c s _ id text done
  | toolStarted id tool command =>
      exact startNew_deed c s _ id _ .running (Kind.suits_running.mpr (.inl ⟨_, rfl, rfl⟩)) rfl rfl
        fun _ => ⟨tool, command, rfl, rfl, rfl⟩
  | toolProgress id line bytes =>
      exact updateTool_deed c s id _ ⟨line, bytes, 1⟩ fun k named => by simp [Message.output?, named]
  | toolCompleted id codes output summary => exact completeTool_deed c s _ id codes output summary
  | streamDelta target chunk => exact streamDelta_deed c s _ target chunk
  | fileEdit id path added removed => exact startKnown_deed c s _ id _ (unconfirmed _ rfl) rfl rfl
  | fileRead id path ranges => exact startKnown_deed c s _ id _ (unconfirmed _ rfl) rfl rfl
  | filesDeleted id paths =>
      unfold apply
      simp only
      split
      · exact .refused _ (by simp) (by simp)
      · exact startKnown_deed c s _ id _ (unconfirmed _ rfl) rfl rfl
  | log id level message =>
      cases id with
      | some id =>
          exact updateTool_deed c s id _ ⟨message, 0, 0⟩ fun k named => by
            simp [Message.output?, named]
      | none =>
          exact .started _ _ .completed (Kind.suits_atOnce (unconfirmed _ rfl) rfl)
            (.minted "log" rfl) (Message.starts_of_plain rfl)
  | inputSubmitted id author text =>
      exact startNew_deed c s _ id _ .pending (Kind.suits_pending.mpr ⟨author, text, rfl⟩) rfl rfl
        (Message.starts_of_plain rfl)
  | inputAcknowledged id author text => exact acknowledge_deed c s _ id author text
  | taskCompleted id summary => exact startKnown_deed c s _ id _ (unconfirmed _ rfl) rfl rfl
  | connectionError reason => exact .ignored rfl
  | connectionRestored => exact .ignored rfl
  | command command => exact .ignored rfl

/-- What a message leaves, in six cases. -/
inductive Effect (c : Correlator) (s : Store) (m : Message) (now : Instant) : Ingested → Prop where
  | refused (e : IngestionError) (stale : ∀ k, e = .staleHandle k → m.isStale s = true) :
      Effect c s m now (c.refuse s e)
  | ignored (other : m.isIngested = false) : Effect c s m now ⟨.ok .ignored, c, s⟩
  | appended (c' : Correlator) (id : CorrelationId) (kind : Kind) (status : Status) :
      Effect c s m now
        ⟨.ok (.appended (c.start s id kind status now).1), c', (c.start s id kind status now).2.2⟩
  | updated (k : Key) (f : Edit) (keep : f.KeepsFlag) (live : s.contains k = true) :
      Effect c s m now ⟨.ok (.updated k), c, s.update k f.run⟩
  | confirmed (k : Key) (f : Edit) (keep : f.KeepsFlag) (live : s.contains k = true) :
      Effect c s m now ⟨.ok (.confirmed k), c, s.update k f.run⟩
  | finished (c' : Correlator) (k : Key) (f : Edit) (keep : f.KeepsFlag)
      (live : s.contains k = true) :
      Effect c s m now ⟨.ok (.finished k), c', s.update k f.run⟩
  /-- A tool that has ended loses the right to be streamed into. -/
  | ended (k : Key) (f : Edit) (keep : f.KeepsFlag) (live : s.contains k = true) :
      Effect c s m now ⟨.ok (.finished k), c, (s.update k f.run).releaseLease k⟩

theorem apply_effect (c : Correlator) (s : Store) (m : Message) (now : Instant) :
    Effect c s m now (c.apply s m now) := by
  have live {k : Key} {e : Entry} (found : s.get? k = some e) : s.contains k = true := by
    simp [Store.contains, found]
  have deed := c.apply_deed s m now
  generalize c.apply s m now = r at deed
  cases deed with
  | refused e stale duplicate => exact .refused e stale
  | ignored other => exact .ignored other
  | started id kind status suits names starts => exact .appended _ id kind status
  | recorded found running tool p written => exact .updated _ (p.edit now) (fun _ => rfl) (live found)
  | ended found running tool id codes output summary is named =>
      exact .ended _ (Entry.completeEdit codes output summary now) (fun _ => rfl) (live found)
  | thought found opened text =>
      exact .updated _ (Entry.thinkEdit text now) (fun _ => rfl) (live found)
  | thoughtLast found opened text =>
      exact .finished _ _ (Entry.thinkLastEdit text now) (fun _ => rfl) (live found)
  | confirmed found instruction author text allowed =>
      exact .confirmed _ (Entry.confirmEdit author text now)
        (fun e => (e.confirm_frame author text now).2) (live found)

/-- Output for an entry that is gone is refused for that. -/
theorem apply_of_isStale (c : Correlator) (now : Instant) (stale : m.isStale s = true) :
    ∃ target chunk, m = .streamDelta target chunk ∧
      c.apply s m now = c.refuse s (.staleHandle target) := by
  cases m with
  | streamDelta target chunk =>
      have gone : s.get? target = none := by simpa [Message.isStale, Store.contains] using stale
      exact ⟨target, chunk, rfl, by simp [apply, streamDelta, gone]⟩
  | _ => exact absurd stale (by simp [Message.isStale])

end Correlator

end Chronicle
