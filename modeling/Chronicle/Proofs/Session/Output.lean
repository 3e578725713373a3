import Chronicle.Proofs.Session.Streams
import Mathlib.Algebra.Ring.Nat

/-!
# What is known of a tool's output

Output reaches a tool in pieces: in messages that name its id, and in chunks that name its key.  While the
tool runs, the size of its output and its last line are those of the pieces that were taken for it
(`ToolUse.Tallies`), whatever else has been going on; the next piece will be taken too, and what the end
of the tool will make of it depends on nothing else (`accounts_run`).

The pieces for a tool are picked out of a run by the number of its entry (`piecesOf`), since ids and keys
may be used again.  One message either starts the tool, brings one piece for it, or leaves it as it is
(`Correlator.tool_apply`), and flags and evictions leave it as it is.
-/

namespace Chronicle

/-! ## One tool -/

/-- The tool has taken these pieces of output, and is known to have ended with no code yet. -/
structure ToolUse.Tallies (use : ToolUse) (pieces : List Piece) : Prop where
  exitCodes : use.exitCodes = []
  bytes : use.output.bytes = min maxWord (pieces.map (·.bytes)).sum
  lines : use.output.lines = min maxWord (pieces.map (·.lines)).sum
  /-- The last line is that of the latest piece that is not blank. -/
  lastLine : use.lastLine =
    (pieces.reverse.find? fun p => !Text.allBlank p.line).map fun p => Text.trimEnd p.line

/-- What the end of a tool makes of it. -/
structure ToolUse.Closes (use use' : ToolUse) (codes : List Int) (output : String)
    (summary : Option String) : Prop where
  exitCodes : use'.exitCodes = codes
  /-- The summary, or else the last line of the output, or else the last line that was taken, if there
  is one that is not blank; or else a word about the codes. -/
  lastLine : use'.lastLine = some
    ((((summary.filter fun text => !Text.allBlank text).or
      (((Text.lines output).reverse.find? fun line => !Text.allBlank line).map Text.trimEnd)).or
        use.lastLine).getD (closingText codes))
  /-- The output counts if nothing was counted before. -/
  size : use'.output =
    if use.output.bytes = 0 ∧ output ≠ "" then
      ⟨output.utf8ByteSize, (Text.lines output).length⟩
    else use.output

namespace ToolUse

variable {use : ToolUse} {pieces : List Piece}

theorem tallies_start (tool command : String) : (start tool command).Tallies [] :=
  ⟨rfl, rfl, rfl, rfl⟩

theorem saturatingAdd_min (total more : Nat) :
    saturatingAdd (min maxWord total) more = min maxWord (total + more) := by
  rw [saturatingAdd]
  omega

theorem Tallies.record (tallies : use.Tallies pieces) (p : Piece) :
    (use.record p.line p.bytes p.lines).Tallies (pieces ++ [p]) where
  exitCodes := tallies.exitCodes
  bytes := by
    rw [List.map_append, List.sum_append_nat]
    simp only [ToolUse.record, tallies.bytes, saturatingAdd_min, List.map_cons, List.map_nil,
      List.sum_singleton]
  lines := by
    rw [List.map_append, List.sum_append_nat]
    simp only [ToolUse.record, tallies.lines, saturatingAdd_min, List.map_cons, List.map_nil,
      List.sum_singleton]
  lastLine := by
    rw [List.reverse_append]
    simp only [ToolUse.record, Text.isEmpty_trimEnd, List.reverse_singleton, List.singleton_append,
      List.find?_cons]
    cases Text.allBlank p.line with
    | true => exact tallies.lastLine
    | false => rfl

theorem closes_complete (use : ToolUse) (codes : List Int) (output : String)
    (summary : Option String) :
    use.Closes (use.complete codes output summary) codes output summary where
  exitCodes := rfl
  lastLine := by
    rw [complete, finalLine, Text.lastFullLine?]
    cases summary.filter fun text => !Text.allBlank text with
    | some text => rfl
    | none =>
        cases (Text.lines output).reverse.find? fun line => !Text.allBlank line with
        | some line => rfl
        | none => cases use.lastLine <;> rfl
  size := by
    rw [complete, finalSize]
    simp

end ToolUse

theorem Status.ofExitCodes_eq_failed (codes : List Int) :
    Status.ofExitCodes codes = .failed ↔ ∃ code ∈ codes, code ≠ 0 := by
  rw [ofExitCodes, ite_eq_left_iff]
  simp

theorem Status.ofExitCodes_eq_completed (codes : List Int) :
    Status.ofExitCodes codes = .completed ↔ ∀ code ∈ codes, code = 0 := by
  rw [ofExitCodes, ite_eq_right_iff]
  simp

/-- The entry is a tool that has taken these pieces of output. -/
def Entry.Tallies (e : Entry) (pieces : List Piece) : Prop :=
  ∃ use, e.kind = .toolUse use ∧ use.Tallies pieces

theorem Entry.Tallies.record {e : Entry} {pieces : List Piece} (tallies : e.Tallies pieces) (p : Piece)
    (now : Instant) : ((p.edit now).run e).Tallies (pieces ++ [p]) := by
  obtain ⟨use, kind, tallies⟩ := tallies
  refine ⟨use.record p.line p.bytes p.lines, ?_, tallies.record p⟩
  simp [Piece.edit, recordEdit, Entry.record, kind]

/-! ## The pieces that reach an entry -/

/-- What is sent by key reaches the entry with a number, if the key is that of the entry. -/
theorem Store.reaches_eq_some {α : Type} {s : Store} {n : Nat} {sent : Option (Key × α)} {a : α} :
    (sent.bind fun (k, a) => if (s.get? k).any (·.sequence = n) then some a else none) = some a ↔
      ∃ k e, sent = some (k, a) ∧ s.get? k = some e ∧ e.sequence = n := by
  rw [Option.bind_eq_some_iff]
  constructor
  · rintro ⟨⟨k, a'⟩, sent, here⟩
    simp only [Option.ite_none_right_eq_some, Option.any_eq_true, decide_eq_true_eq] at here
    obtain ⟨⟨e, found, number⟩, same⟩ := here
    exact ⟨k, e, by rw [sent, Option.some.inj same], found, number⟩
  · rintro ⟨k, e, sent, found, rfl⟩
    exact ⟨(k, a), sent, by simp [found]⟩

/-- The piece of output that a message is for the entry with a number. -/
def Message.pieceTo? (s : Store) (n : Nat) (m : Message) : Option Piece :=
  (m.output? s).bind fun (k, p) => if (s.get? k).any (·.sequence = n) then some p else none

section Pieces

variable {s : Store} {m : Message} {k : Key} {e : Entry} {n : Nat} {p : Piece}

theorem Message.pieceTo?_eq_some :
    m.pieceTo? s n = some p ↔
      ∃ k e, m.output? s = some (k, p) ∧ s.get? k = some e ∧ e.sequence = n :=
  Store.reaches_eq_some

/-- An entry is found by its key exactly if it is found by its number. -/
theorem Message.pieceTo?_eq (sound : s.Sound) (found : s.get? k = some e) (m : Message) :
    m.pieceTo? s e.sequence = m.pieceFor? s k := by
  refine Option.ext fun p => ?_
  rw [pieceTo?_eq_some, pieceFor?_eq_some]
  constructor
  · rintro ⟨k', e', output, found', number⟩
    rwa [← sound.key_of_sequence found' found number]
  · intro output
    exact ⟨k, e, output, found, rfl⟩

/-- No piece is for an entry that is yet to come. -/
theorem Message.pieceTo?_eq_none (sound : s.Sound) (future : s.nextSequence ≤ n) (m : Message) :
    m.pieceTo? s n = none := by
  refine Option.eq_none_iff_forall_ne_some.mpr fun p piece => ?_
  obtain ⟨k, e, -, found, rfl⟩ := pieceTo?_eq_some.mp piece
  exact absurd (sound.sequence_lt_next found) (Nat.not_lt.mpr future)

end Pieces

/-! ## The books on one number -/

namespace Log

variable {l l' : Log} {n : Nat} {pieces : List Piece}

/-- If the entry with a number is a running tool, it has taken these pieces.  An entry that is yet to come
has taken none. -/
structure Tallied (l : Log) (n : Nat) (pieces : List Piece) : Prop where
  future : l.store.nextSequence ≤ n → pieces = []
  running : ∀ k e, l.store.get? k = some e → e.sequence = n → e.isWriting = true → e.Tallies pieces

theorem tallied_empty (c : Correlator) (retiredCap n : Nat) :
    Tallied ⟨c, .empty retiredCap⟩ n [] where
  future _ := rfl
  running k e found := by simp [Store.empty, Store.get?, Store.slot?] at found

theorem Tallied.tends (tallied : l.Tallied n pieces) (sound : l.store.Sound) (tends : Tends l l') :
    l'.Tallied n pieces := by
  have next : l'.store.nextSequence = l.store.nextSequence := Session.nextSequence_tends tends sound
  refine ⟨fun future => tallied.future (next ▸ future), fun k e' found' number writes => ?_⟩
  obtain ⟨e, discarded, found, rfl⟩ := tends.get?_was sound found'
  exact tallied.running k e found number writes

/-- A message adds the piece that it is for the entry. -/
theorem Tallied.take (tallied : l.Tallied n pieces) (holds : l.Coherent) (m : Message)
    (now : Instant) : (l.take m now).Tallied n (pieces ++ (m.pieceTo? l.store n).toList) := by
  have next := ((l.take_changes m now).continues holds).next
  have unborn (future : l.store.nextSequence ≤ n) :
      pieces ++ (m.pieceTo? l.store n).toList = [] := by
    rw [tallied.future future, Message.pieceTo?_eq_none holds.sound future]
    rfl
  refine ⟨fun future => unborn (Nat.le_trans next future), ?_⟩
  rintro k e' found' rfl writes'
  rcases Correlator.tool_apply holds found' writes' with ⟨new, tool, command, kind⟩ |
    ⟨e, found, writes, same⟩
  · rw [unborn new.ge]
    exact ⟨_, kind, ToolUse.tallies_start tool command⟩
  · cases piece : m.pieceFor? l.store k with
    | none =>
        rw [piece] at same
        obtain rfl : e' = e := same
        rw [Message.pieceTo?_eq holds.sound found, piece]
        simpa using tallied.running k e' found rfl writes
    | some p =>
        rw [piece] at same
        obtain rfl : e' = (p.edit now).run e := same
        have number : ((p.edit now).run e).sequence = e.sequence := (p.edit now).sequence_run e
        rw [number, Message.pieceTo?_eq holds.sound found, piece]
        exact (tallied.running k e found number.symm writes).record p now

end Log

/-! ## Runs -/

namespace Session

variable {s : Session} {k : Key} {e : Entry} {n : Nat} {pieces : List Piece}

/-- The piece of output that an action brings for the entry with a number, if it is taken. -/
def pieceOf? (s : Session) (n : Nat) : Action → Option Piece
  | .handle m now => if (s.handle m now).1 then m.pieceTo? s.store n else none
  | _ => none

/-- The pieces of output that are taken in a run for the entry with a number. -/
def piecesOf (s : Session) (n : Nat) : List Action → List Piece
  | [] => []
  | a :: rest => (s.pieceOf? n a).toList ++ (s.perform a).piecesOf n rest

theorem piecesOf_append (s : Session) (n : Nat) (actions : List Action) (a : Action) :
    s.piecesOf n (actions ++ [a]) =
      s.piecesOf n actions ++ ((s.run actions).pieceOf? n a).toList := by
  induction actions generalizing s with
  | nil => simp [piecesOf, run]
  | cons first rest ih =>
      rw [List.cons_append, piecesOf, piecesOf, ih, List.append_assoc]
      rfl

/-- A message that is refused leaves the log. -/
theorem take_of_refused {m : Message} {now : Instant} (ingested : m.isIngested = true)
    (refused : (s.handle m now).1 = false) : s.log.take m now = s.log := by
  have effect := s.correlator.apply_effect s.store m now
  rw [handle_eq_isOk s ingested] at refused
  show (s.correlator.apply s.store m now).log = s.log
  generalize s.correlator.apply s.store m now = r at effect refused
  cases effect with
  | refused refusal stale => rfl
  | _ => exact absurd refused (by simp [Except.isOk, Except.toBool])

/-- What is not for the timeline brings no output. -/
theorem pieceOf?_eq_none {a : Action} (other : ∀ m now, a = .handle m now → m.isIngested = false) :
    s.pieceOf? n a = none := by
  cases a with
  | handle m now =>
      have aside := other m now rfl
      have silent : m.output? s.store = none := by
        cases m with
        | connectionError reason => rfl
        | connectionRestored => rfl
        | command c => rfl
        | _ => exact absurd aside (by simp [Message.isIngested])
      simp [pieceOf?, Message.pieceTo?, silent]
  | _ => rfl

theorem tallied_handle (holds : s.log.Coherent) (tallied : s.log.Tallied n pieces) {m : Message}
    (ingested : m.isIngested = true) (now : Instant) :
    (s.perform (.handle m now)).log.Tallied n
      (pieces ++ (s.pieceOf? n (.handle m now)).toList) := by
  have took : (s.log.take m now).Tallied n (pieces ++ (s.pieceOf? n (.handle m now)).toList) := by
    cases accepted : (s.handle m now).1 with
    | true =>
        rw [pieceOf?, if_pos accepted]
        exact tallied.take holds m now
    | false =>
        rw [pieceOf?, if_neg (by simp [accepted]), take_of_refused ingested accepted]
        simpa using tallied
  rw [perform, handle_eq_ingest s now ingested]
  exact took.tends (holds.take m now).sound (ingest_tends s m now)

/-- An action adds the piece that it brings for the entry. -/
theorem tallied_perform (holds : s.log.Coherent) (tallied : s.log.Tallied n pieces) (a : Action) :
    (s.perform a).log.Tallied n (pieces ++ (s.pieceOf? n a).toList) := by
  by_cases handed : ∃ m now, a = .handle m now ∧ m.isIngested = true
  · obtain ⟨m, now, rfl, ingested⟩ := handed
    exact tallied_handle holds tallied ingested now
  · have silent : s.pieceOf? n a = none := by
      refine pieceOf?_eq_none fun m now is => Bool.eq_false_iff.mpr fun ingested => ?_
      exact handed ⟨m, now, is, ingested⟩
    rw [silent, Option.toList_none, List.append_nil]
    rcases perform_course s a with ⟨s₁, m, now, taken, before, after⟩ | ⟨-, tends⟩
    · have holds₁ := before.coherent holds
      have took := (tallied.tends holds.sound before).take holds₁ m now
      rcases intake?_cases taken with ⟨is, ingested, -⟩ | ⟨draft, text, -, submitted⟩
      · exact absurd ⟨m, now, is, ingested⟩ handed
      · have no_output : m.pieceTo? s₁.log.store n = none := by rw [submitted]; rfl
        rw [no_output, Option.toList_none, List.append_nil] at took
        exact took.tends (holds₁.take m now).sound after
    · exact tallied.tends holds.sound tends

theorem tallied_run (c : Config) (n : Nat) (actions : List Action) :
    ((start c).run actions).log.Tallied n ((start c).piecesOf n actions) := by
  induction actions using List.reverseRecOn with
  | nil => exact Log.tallied_empty _ c.retiredIds n
  | append_singleton actions a ih =>
      rw [run_append, piecesOf_append]
      exact tallied_perform (coherent_log_run (coherent_log_start c) actions) ih a

/-! ## The books -/

/-- What is known of the output of a tool that runs. -/
structure Accounts (s : Session) (k : Key) (e : Entry) (use : ToolUse) (pieces : List Piece) :
    Prop where
  tallies : use.Tallies pieces
  /-- Every piece of output for it is taken. -/
  takes : ∀ m p, m.output? s.store = some (k, p) → ∀ now,
    s.handle m now = (true, { s with store := s.store.update k (p.edit now).run })
  /-- The message that ends it is taken. -/
  ends : ∀ id, s.store.keyOf? id = some k → ∀ codes output summary now,
    (s.handle (.toolCompleted id codes output summary) now).1 = true ∧
    ∃ e' use', (s.handle (.toolCompleted id codes output summary) now).2.store.get? k = some e' ∧
      e'.name = e.name ∧ e'.kind = .toolUse use' ∧ use.Closes use' codes output summary ∧
      (e'.status = .failed ↔ ∃ code ∈ codes, code ≠ 0) ∧
      (e'.status = .completed ↔ ∀ code ∈ codes, code = 0)
  /-- Messages with its id are for it, unless that is an id minted later. -/
  named : e.id.IsDue e.sequence → s.store.keyOf? e.id = some k
  /-- No others are, while there are generations left. -/
  only : s.counters.evicted < generationLimit → ∀ id, s.store.keyOf? id = some k → id = e.id

/-- The books are in order: each running tool has taken the pieces that are listed for its number. -/
def HasAccounts (s : Session) (pieces : Nat → List Piece) : Prop :=
  ∀ k e use, (k, e) ∈ s.store.entries → e.status = .running → e.kind = .toolUse use →
    s.Accounts k e use (pieces e.sequence)

/-- The end of a tool, by its id. -/
theorem handle_completion (s : Session) {id : CorrelationId} (codes : List Int) (output : String)
    (summary : Option String) (now : Instant) (found : s.store.get? k = some e)
    (writes : e.isWriting = true) (named : s.store.keyOf? id = some k) :
    (s.handle (.toolCompleted id codes output summary) now).1 = true ∧
    (s.handle (.toolCompleted id codes output summary) now).2.store.get? k =
      some (e.complete codes output summary now) := by
  rw [handle_eq_ingest s now rfl, ingest,
    s.correlator.apply_completion codes output summary now found writes named]
  refine ⟨rfl, ?_⟩
  show ((s.store.update k _).releaseLease k).get? k = _
  rw [Store.get?_releaseLease, Store.get?_update_self, found]
  rfl

/-- In every state that is reached the books are in order. -/
theorem accounts_run (c : Config) (actions : List Action) :
    ((start c).run actions).HasAccounts fun n => (start c).piecesOf n actions := by
  intro k e use mem status kind
  have keyed := keyed_run (keyed_start c) actions
  have gone := gone_run c actions
  have tallied := tallied_run c e.sequence actions
  generalize (start c).run actions = s at mem keyed gone tallied ⊢
  have found := keyed.sound.mem_entries.mp mem
  have writes : e.isWriting = true :=
    Entry.isWriting_iff.mpr ⟨Entry.isRunning_iff.mpr status, by rw [kind]; rfl⟩
  refine ⟨?tallies, ?takes, ?ends, ?named, ?only⟩
  case tallies =>
    obtain ⟨use', kind', tallies⟩ := tallied.running k e found rfl writes
    obtain rfl := Kind.toolUse.inj (kind.symm.trans kind')
    exact tallies
  case takes =>
    intro m p output now
    exact handle_output s now found writes output
  case ends =>
    intro id named codes output summary now
    obtain ⟨accepted, found'⟩ := handle_completion s codes output summary now found writes named
    refine ⟨accepted, _, use.complete codes output summary, found', rfl, ?_,
      use.closes_complete codes output summary, Status.ofExitCodes_eq_failed codes,
      Status.ofExitCodes_eq_completed codes⟩
    simp [Entry.complete, Entry.finish, kind]
  case named =>
    intro due
    exact keyed.lists.keyOf?_eq found due
  case only =>
    intro few id named
    have looked := (Store.keyOf?_eq_some.mp named).1
    exact ((keyed.indexed (gone ▸ few)).id_eq looked found).symm

/-- Two tools that write by turns. -/
def twoTools : List Action :=
  [.handle (.toolStarted (.producer "a") "sh" "make") 0,
    .handle (.toolStarted (.producer "b") "sh" "ls") 1,
    .handle (.toolProgress (.producer "a") "one" 4) 2,
    .handle (.toolProgress (.producer "b") "two" 4) 3,
    .handle (.streamDelta ⟨0, 0⟩ "x\ny\n") 4]

/-- The first of the two tools has written eight bytes in three lines, and the last one says y. -/
theorem accounts_run_twoTools :
    ∃ e, ((start .standard).run twoTools).Accounts ⟨0, 0⟩ e
      ⟨"sh", ["make"], [], ⟨8, 3⟩, some "y"⟩ [⟨"one", 4, 1⟩, ⟨"y", 4, 2⟩] := by
  have pieces : (start .standard).piecesOf 0 twoTools = [⟨"one", 4, 1⟩, ⟨"y", 4, 2⟩] := by
    decide +kernel
  refine ⟨⟨.producer "a", 0, .toolUse ⟨"sh", ["make"], [], ⟨8, 3⟩, some "y"⟩, .running, some 0, none,
    some 4, false⟩, ?_⟩
  rw [← pieces]
  exact accounts_run .standard twoTools ⟨0, 0⟩ _ _ (by decide +kernel) rfl rfl

end Session

end Chronicle
