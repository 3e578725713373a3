import Chronicle.Proofs.Correlator.Thoughts
import Chronicle.Proofs.Session.MintedApart
import Chronicle.Proofs.Session.Output

/-!
# Thoughts that come in pieces

A thought begins with one piece, and more pieces come under its id.  The text of the thought is that of the
pieces that were taken for it, one after another; a piece is taken as long as no entry has been appended
since the first one and none of them was the last; and the thought ends with the first of the two, at the
time of it (`bursts_run`).

The pieces for a thought, and the times when it was to end, are picked out of a run by the number of its
entry (`deltasOf`, `endingsOf`).  An action adds to both what it brings (`burst_perform`), whatever it is:
there is no need to know which entries are appended, or by which way.
-/

namespace Chronicle

/-- The time at which a piece ends the thought, if it is the last one. -/
def Delta.ending? (d : Delta) : Option Instant := if d.done then some d.time else none

theorem Delta.ending?_toList_eq_nil (d : Delta) : d.ending?.toList = [] ↔ d.done = false := by
  rw [ending?]
  cases d.done <;> simp

/-! ## One thought -/

/-- The entry is a thought of these pieces, and has ended at the first of these times. -/
structure Entry.Recounts (e : Entry) (id : CorrelationId) (first : Delta) (later : List Delta)
    (endings : List Instant) : Prop where
  id : e.id = id
  kind : e.kind = .thought (String.join ((first :: later).map (·.text)))
  started : e.started = some first.time
  /-- It runs until the first of the times comes. -/
  status : e.status = if endings = [] then .running else .completed
  ended : e.ended = endings.head?

namespace Entry.Recounts

variable {e : Entry} {id : CorrelationId} {first : Delta} {later : List Delta} {endings : List Instant}

theorem isThought (recounts : e.Recounts id first later endings) : e.kind.isThought = true := by
  rw [recounts.kind]
  rfl

/-- It is open as long as it was not to end. -/
theorem isOpen_iff (recounts : e.Recounts id first later endings) : e.isOpen = true ↔ endings = [] := by
  rw [Entry.isOpen, recounts.isThought, Bool.and_true, Entry.isRunning_iff, recounts.status]
  split <;> simp [*]

theorem closeBurst (recounts : e.Recounts id first later endings) (now : Instant) :
    (e.closeBurst now).Recounts id first later (endings ++ [now]) := by
  cases endings with
  | nil =>
      rw [Entry.closeBurst_of_isOpen (recounts.isOpen_iff.mpr rfl)]
      exact ⟨recounts.id, recounts.kind, recounts.started, rfl, rfl⟩
  | cons time times =>
      have shut : e.isOpen = false :=
        Bool.eq_false_iff.mpr fun opened => absurd (recounts.isOpen_iff.mp opened) (by simp)
      rw [Entry.closeBurst_of_not_isOpen shut recounts.isThought]
      exact ⟨recounts.id, recounts.kind, recounts.started, recounts.status, recounts.ended⟩

theorem grow (recounts : e.Recounts id first later []) (d : Delta) :
    (d.edit.run e).Recounts id first (later ++ [d]) d.ending?.toList where
  id := (congrArg Prod.fst (d.edit.name_run e)).trans recounts.id
  kind := by
    rw [Entry.run_edit_kind recounts.kind, ← List.cons_append, List.map_append, String.join_append]
    simp [String.join]
  started := (e.run_edit_started d).trans recounts.started
  status := by
    rw [Entry.run_edit_status, recounts.status, Delta.ending?]
    cases d.done <;> rfl
  ended := by
    rw [Entry.run_edit_ended, recounts.ended, Delta.ending?]
    cases d.done <;> rfl

end Entry.Recounts

/-! ## The pieces that reach an entry -/

/-- The piece of a thought that a message is for the entry with a number. -/
def Message.deltaTo? (s : Store) (n : Nat) (now : Instant) (m : Message) : Option Delta :=
  (m.delta? s now).bind fun (k, d) => if (s.get? k).any (·.sequence = n) then some d else none

theorem Message.deltaTo?_eq_some {s : Store} {n : Nat} {now : Instant} {m : Message} {d : Delta} :
    m.deltaTo? s n now = some d ↔
      ∃ k e, m.delta? s now = some (k, d) ∧ s.get? k = some e ∧ e.sequence = n :=
  Store.reaches_eq_some

namespace Log

variable {l l' : Log} {n : Nat} {id : CorrelationId} {first d : Delta} {later : List Delta}
  {endings : List Instant} {m : Message} {now : Instant}

/-- The piece that a message brings for the entry with a number, if it is taken. -/
def deltaTo? (l : Log) (n : Nat) (m : Message) (now : Instant) : Option Delta :=
  if (l.correlator.apply l.store m now).result.isOk then m.deltaTo? l.store n now else none

/-- When a message ends the thought with a number: it appends an entry, or it brings the last piece. -/
def endingTo? (l : Log) (n : Nat) (m : Message) (now : Instant) : Option Instant :=
  if l.store.nextSequence < (l.take m now).store.nextSequence then some now
  else (l.deltaTo? n m now).bind Delta.ending?

/-- The entry with a number, once it has been given, is a thought of these pieces, and has ended at the
first of these times. -/
structure Burst (l : Log) (n : Nat) (id : CorrelationId) (first : Delta) (later : List Delta)
    (endings : List Instant) : Prop where
  given : n < l.store.nextSequence
  open_iff : endings = [] ↔ l.store.nextSequence = n + 1 ∧ ∀ d ∈ first :: later, d.done = false
  recounts : ∀ k e, l.store.get? k = some e → e.sequence = n → e.Recounts id first later endings

theorem Burst.tends (burst : l.Burst n id first later endings) (sound : l.store.Sound)
    (tends : Tends l l') : l'.Burst n id first later endings := by
  have next : l'.store.nextSequence = l.store.nextSequence := Session.nextSequence_tends tends sound
  refine ⟨next ▸ burst.given, next ▸ burst.open_iff, fun k e' found' number => ?_⟩
  obtain ⟨e, discarded, found, rfl⟩ := tends.get?_was sound found'
  have recounts := burst.recounts k e found number
  exact ⟨recounts.id, recounts.kind, recounts.started, recounts.status, recounts.ended⟩

/-- A piece that is taken for the entry with a number is taken by that entry, which is an open thought. -/
theorem take_of_deltaTo? (piece : l.deltaTo? n m now = some d) :
    ∃ k e, l.store.get? k = some e ∧ e.sequence = n ∧ e.isOpen = true ∧
      (l.take m now).store = l.store.update k d.edit.run := by
  rw [deltaTo?, Option.ite_none_right_eq_some] at piece
  obtain ⟨taken, piece⟩ := piece
  obtain ⟨k, e, written, found, number⟩ := Message.deltaTo?_eq_some.mp piece
  refine ⟨k, e, found, number, ?_⟩
  cases opened : e.isOpen with
  | true =>
      obtain ⟨o, c', took⟩ := l.correlator.apply_delta found opened written
      exact ⟨rfl, by rw [take, took]; rfl⟩
  | false =>
      obtain ⟨refusal, refused⟩ := l.correlator.apply_delta_refused found opened written
      rw [refused] at taken
      exact absurd taken Bool.false_ne_true

/-- A piece that is taken adds to the thought, and ends it if it is the last. -/
theorem Burst.grow (burst : l.Burst n id first later endings) (holds : l.Coherent)
    (piece : l.deltaTo? n m now = some d) :
    (l.take m now).Burst n id first (later ++ [d]) (endings ++ d.ending?.toList) := by
  obtain ⟨k, e, found, number, opened, took⟩ := take_of_deltaTo? piece
  have recounts := burst.recounts k e found number
  obtain rfl := recounts.isOpen_iff.mp opened
  obtain ⟨next, pieces⟩ := burst.open_iff.mp rfl
  refine ⟨?given, ?open_iff, ?recounts⟩
  case given =>
    rw [took]
    exact burst.given
  case open_iff =>
    rw [took, List.nil_append, d.ending?_toList_eq_nil]
    constructor
    · intro more
      refine ⟨next, fun d' mem => ?_⟩
      rw [← List.cons_append, List.mem_append, List.mem_singleton] at mem
      rcases mem with before | rfl
      · exact pieces d' before
      · exact more
    · intro all
      exact all.2 d (by simp)
  case recounts =>
    intro k' e' found' number'
    rw [took, Store.get?_update] at found'
    split at found'
    · next same =>
        subst same
        rw [found] at found'
        obtain rfl := Option.some.inj found'
        exact recounts.grow d
    · next other => exact absurd (holds.sound.key_of_sequence found' found (number'.trans number.symm)) other

theorem refused_of_deltaTo? {k : Key} {e : Entry} (none_taken : l.deltaTo? n m now = none)
    (found : l.store.get? k = some e) (number : e.sequence = n)
    (written : m.delta? l.store now = some (k, d)) :
    (l.correlator.apply l.store m now).result.isOk = false := by
  refine Bool.eq_false_iff.mpr fun taken => ?_
  have piece := Message.deltaTo?_eq_some.mpr ⟨k, e, written, found, number⟩
  rw [deltaTo?, if_pos taken, piece] at none_taken
  exact absurd none_taken (by simp)

/-- Where no piece is taken, what matters is whether an entry is appended. -/
theorem Burst.pass (burst : l.Burst n id first later endings) (holds : l.Coherent)
    (none_taken : l.deltaTo? n m now = none) :
    (l.take m now).Burst n id first later
      (endings ++ if l.store.nextSequence < (l.take m now).store.nextSequence then [now] else []) := by
  have given := burst.given
  have continues := (l.take_changes m now).continues holds
  refine ⟨Nat.lt_of_lt_of_le given continues.next, ?open_iff, ?recounts⟩
  case open_iff =>
    rcases Nat.eq_or_lt_of_le continues.next with same | more
    · rw [if_neg (by omega), List.append_nil, ← same]
      exact burst.open_iff
    · rw [if_pos more]
      constructor
      · intro none
        exact absurd none (by simp)
      · rintro ⟨next, -⟩
        omega
  case recounts =>
    intro k e' found' number'
    obtain ⟨e, found, number⟩ := continues.exists_of_lt found' (number' ▸ given)
    have number := number.trans number'
    have recounts := burst.recounts k e found number
    rcases Correlator.thought_apply holds found recounts.isThought
        (fun d => refused_of_deltaTo? none_taken found number) with ⟨next, closed⟩ | ⟨next, same⟩
    · obtain rfl := Option.some.inj (closed.symm.trans found')
      rw [if_pos (next ▸ Nat.lt_succ_self _)]
      exact recounts.closeBurst now
    · obtain rfl := Option.some.inj (same.symm.trans found')
      rw [if_neg (next ▸ Nat.lt_irrefl _), List.append_nil]
      exact recounts

/-- A message adds the piece that it brings for the thought, and the time if it is to end it. -/
theorem Burst.take (burst : l.Burst n id first later endings) (holds : l.Coherent) (m : Message)
    (now : Instant) :
    (l.take m now).Burst n id first (later ++ (l.deltaTo? n m now).toList)
      (endings ++ (l.endingTo? n m now).toList) := by
  rw [endingTo?]
  cases piece : l.deltaTo? n m now with
  | some d =>
      obtain ⟨k, e, -, -, -, took⟩ := take_of_deltaTo? piece
      have next : (l.take m now).store.nextSequence = l.store.nextSequence := by rw [took]; rfl
      rw [if_neg (next ▸ Nat.lt_irrefl _)]
      exact burst.grow holds piece
  | none =>
      have pass := burst.pass holds piece
      rw [Option.toList_none, List.append_nil]
      split
      · next more => rwa [if_pos more] at pass
      · next same => rwa [if_neg same] at pass

/-- A piece for which an entry is appended begins a thought. -/
theorem burst_first (holds : l.Coherent)
    (appended : l.store.nextSequence <
      (l.take (.thoughtDelta id first.text first.done) first.time).store.nextSequence) :
    (l.take (.thoughtDelta id first.text first.done) first.time).Burst l.store.nextSequence id first []
      first.ending?.toList := by
  have closed := Correlator.sound_closeThoughts l.correlator holds.sound first.time
  obtain ⟨-, next, -⟩ := l.correlator.closeThoughts_frame l.store first.time
  have is : (l.take (.thoughtDelta id first.text first.done) first.time).store =
      ((l.correlator.closeThoughts l.store first.time).2.append id (.thought first.text) first.status
        first.time).2 :=
    l.correlator.apply_first first appended
  refine ⟨appended, ?open_iff, ?recounts⟩
  case open_iff =>
    rw [is, Store.nextSequence_append, next, first.ending?_toList_eq_nil]
    simp
  case recounts =>
    intro k e found number
    rw [is, closed.get?_append] at found
    split at found
    · obtain rfl := Option.some.inj found
      refine ⟨rfl, by simp [Store.fresh, String.join], rfl, ?_, ?_⟩
      · rw [Delta.ending?, Store.fresh, Delta.status]
        cases first.done <;> rfl
      · rw [Delta.ending?, Store.fresh, Delta.status]
        cases first.done <;> rfl
    · have old := closed.sequence_lt_next found
      rw [next, number] at old
      exact absurd old (Nat.lt_irrefl _)

end Log

/-! ## Runs -/

/-- The piece as it is handed in, under the id of the thought. -/
def Delta.action (d : Delta) (id : CorrelationId) : Session.Action :=
  .handle (.thoughtDelta id d.text d.done) d.time

namespace Session

open Log (Tends)

variable {s : Session} {a : Action} {n : Nat} {k : Key} {e : Entry} {id : CorrelationId}
  {first : Delta} {later : List Delta} {endings : List Instant}

/-- The time that an action comes with. -/
def Action.time? : Action → Option Instant
  | .handle _ now => some now
  | .submitInstruction _ now => some now
  | _ => none

/-- The piece of a thought that an action brings for the entry with a number, if it is taken. -/
def deltaOf? (s : Session) (n : Nat) : Action → Option Delta
  | .handle m now => if (s.handle m now).1 then m.deltaTo? s.store n now else none
  | _ => none

/-- When an action ends the thought with a number: it appends an entry, or it brings the last piece. -/
def endingOf? (s : Session) (n : Nat) (a : Action) : Option Instant :=
  if s.store.nextSequence < (s.perform a).store.nextSequence then a.time?
  else (s.deltaOf? n a).bind Delta.ending?

/-- What is found along a run, action by action. -/
def gather {α : Type} (find : Session → Action → Option α) (s : Session) : List Action → List α
  | [] => []
  | a :: rest => (find s a).toList ++ gather find (s.perform a) rest

/-- The pieces that are taken in a run for the thought with a number. -/
def deltasOf (s : Session) (n : Nat) (actions : List Action) : List Delta :=
  gather (·.deltaOf? n) s actions

/-- The times in a run when the thought with a number was to end. -/
def endingsOf (s : Session) (n : Nat) (actions : List Action) : List Instant :=
  gather (·.endingOf? n) s actions

theorem gather_append {α : Type} (find : Session → Action → Option α) (s : Session)
    (actions : List Action) (a : Action) :
    gather find s (actions ++ [a]) = gather find s actions ++ (find (s.run actions) a).toList := by
  induction actions generalizing s with
  | nil => simp [gather, run]
  | cons first rest ih =>
      rw [List.cons_append, gather, gather, ih, List.append_assoc]
      rfl

/-- An action brings the piece that the message brings which it takes in. -/
theorem deltaOf?_eq (s : Session) (n : Nat) (a : Action) :
    s.deltaOf? n a = (s.intake? a).bind fun (s₁, m, now) => s₁.log.deltaTo? n m now := by
  by_cases handed : ∃ m now, a = .handle m now ∧ m.isIngested = true
  · obtain ⟨m, now, rfl, ingested⟩ := handed
    rw [intake?_handle s ingested, deltaOf?, handle_eq_isOk s ingested]
    rfl
  · have silent : s.deltaOf? n a = none := by
      cases a with
      | handle m now =>
          have none_written : m.delta? s.store now = none := by
            cases m with
            | thoughtDelta id text done => exact absurd ⟨_, now, rfl, rfl⟩ handed
            | _ => rfl
          simp [deltaOf?, Message.deltaTo?, none_written]
      | _ => rfl
    rw [silent]
    cases taken : s.intake? a with
    | none => rfl
    | some intake =>
        obtain ⟨s₁, m, now⟩ := intake
        rcases intake?_cases taken with ⟨is, ingested, -⟩ | ⟨draft, text, -, submitted⟩
        · exact absurd ⟨m, now, is, ingested⟩ handed
        · have nothing : m.deltaTo? s₁.store n now = none := by rw [submitted]; rfl
          exact (ite_eq_right_iff.mpr fun _ => nothing).symm

theorem time?_of_intake? {s₁ : Session} {m : Message} {now : Instant}
    (taken : s.intake? a = some (s₁, m, now)) : a.time? = some now := by
  have of_text {s : Session} {text : String} {now' : Instant}
      (taken : s.instruction? text now' = some (s₁, m, now)) : some now' = some now := by
    rw [instruction?] at taken
    split at taken
    · exact absurd taken (by simp)
    · exact congrArg (Option.map (·.2.2)) taken
  unfold intake? at taken
  split at taken
  · split at taken
    · exact absurd taken (by simp)
    · exact of_text taken
  · split at taken
    · exact congrArg (Option.map (·.2.2)) taken
    · exact absurd taken (by simp)
  · exact of_text taken
  · exact absurd taken (by simp)

/-- An action adds the piece that it brings for the thought, and the time if it is to end it. -/
theorem burst_perform (holds : s.log.Coherent) (burst : s.log.Burst n id first later endings)
    (a : Action) :
    (s.perform a).log.Burst n id first (later ++ (s.deltaOf? n a).toList)
      (endings ++ (s.endingOf? n a).toList) := by
  rcases perform_course s a with ⟨s₁, m, now, taken, before, after⟩ | ⟨other, tends⟩
  · have holds₁ := before.coherent holds
    have next₁ : s₁.log.store.nextSequence = s.store.nextSequence := nextSequence_tends before holds.sound
    have next : (s.perform a).log.store.nextSequence = (s₁.log.take m now).store.nextSequence :=
      nextSequence_tends after (holds₁.take m now).sound
    have piece : s.deltaOf? n a = s₁.log.deltaTo? n m now := by rw [deltaOf?_eq, taken]; rfl
    have ending : s.endingOf? n a = s₁.log.endingTo? n m now := by
      rw [endingOf?, Log.endingTo?, time?_of_intake? taken, piece, next₁, ← next]
      rfl
    rw [piece, ending]
    exact ((burst.tends holds.sound before).take holds₁ m now).tends (holds₁.take m now).sound after
  · have next : (s.perform a).store.nextSequence = s.store.nextSequence :=
      nextSequence_tends tends holds.sound
    have piece : s.deltaOf? n a = none := by rw [deltaOf?_eq, other]; rfl
    have ending : s.endingOf? n a = none := by
      rw [endingOf?, if_neg (next ▸ Nat.lt_irrefl _), piece]
      rfl
    rw [piece, ending, Option.toList_none, Option.toList_none, List.append_nil, List.append_nil]
    exact burst.tends holds.sound tends

theorem burst_run (holds : s.log.Coherent) (burst : s.log.Burst n id first later endings)
    (actions : List Action) :
    (s.run actions).log.Burst n id first (later ++ s.deltasOf n actions)
      (endings ++ s.endingsOf n actions) := by
  induction actions using List.reverseRecOn with
  | nil =>
      rw [deltasOf, endingsOf, gather, gather, List.append_nil, List.append_nil]
      exact burst
  | append_singleton actions a ih =>
      have next := burst_perform (coherent_log_run holds actions) ih a
      rw [run_append, deltasOf, endingsOf, gather_append, gather_append, ← List.append_assoc,
        ← List.append_assoc]
      exact next

/-! ## Thoughts -/

/-- An entry is appended for the piece, which begins a thought. -/
def Begins (s : Session) (id : CorrelationId) (first : Delta) : Prop :=
  s.store.nextSequence < (s.perform (first.action id)).store.nextSequence

theorem burst_begins (holds : s.log.Coherent) (begins : s.Begins id first) :
    (s.perform (first.action id)).log.Burst s.store.nextSequence id first []
      first.ending?.toList := by
  obtain ⟨-, -, after⟩ := course_of_intake? holds
    (s.intake?_handle (m := .thoughtDelta id first.text first.done) rfl first.time)
  have sound := (holds.take (.thoughtDelta id first.text first.done) first.time).sound
  have next : (s.perform (first.action id)).store.nextSequence = _ := nextSequence_tends after sound
  exact Log.Burst.tends (Log.burst_first holds (next ▸ begins)) sound after

/-- What is known of the thought of a key. -/
structure IsBurst (s : Session) (k : Key) (e : Entry) (id : CorrelationId) (first : Delta)
    (later : List Delta) (endings : List Instant) : Prop where
  recounts : e.Recounts id first later endings
  /-- A piece for it is taken as long as no entry has been appended since it began and no piece of it was
  the last. -/
  takes : ∀ id', s.store.keyOf? id' = some k → ∀ text done now,
    (s.handle (.thoughtDelta id' text done) now).1 = true ↔
      s.store.nextSequence = e.sequence + 1 ∧ ∀ d ∈ first :: later, d.done = false
  /-- Pieces with its id are for it, unless that is an id minted later. -/
  named : id.IsDue e.sequence → s.store.keyOf? id = some k
  /-- No others are, while there are generations left. -/
  only : s.counters.evicted < generationLimit → ∀ id', s.store.keyOf? id' = some k → id' = id

theorem isBurst_of_burst (keyed : s.store.Keyed)
    (gone : s.store.gone = s.counters.evicted) (burst : s.log.Burst e.sequence id first later endings)
    (found : s.store.get? k = some e) : s.IsBurst k e id first later endings := by
  have recounts := burst.recounts k e found rfl
  refine ⟨recounts, ?takes, ?named, ?only⟩
  case takes =>
    intro id' named text done now
    have written : (Message.thoughtDelta id' text done).delta? s.store now =
        some (k, ⟨text, done, now⟩) := Message.delta?_eq_some.mpr ⟨id', rfl, named, rfl⟩
    have opened_iff : e.isOpen = true ↔
        s.store.nextSequence = e.sequence + 1 ∧ ∀ d ∈ first :: later, d.done = false :=
      recounts.isOpen_iff.trans burst.open_iff
    rw [handle_eq_isOk s rfl, ← opened_iff]
    cases opened : e.isOpen with
    | true =>
        obtain ⟨o, c', took⟩ := s.correlator.apply_delta found opened written
        simp [took, Except.isOk, Except.toBool]
    | false =>
        obtain ⟨refusal, refused⟩ := s.correlator.apply_delta_refused found opened written
        simp [refused, Correlator.refuse, Except.isOk, Except.toBool]
  case named =>
    intro due
    rw [← recounts.id] at due ⊢
    exact keyed.lists.keyOf?_eq found due
  case only =>
    intro few id' named
    have looked := (Store.keyOf?_eq_some.mp named).1
    rw [← recounts.id]
    exact ((keyed.indexed (gone ▸ few)).id_eq looked found).symm

/-- A thought that began with a piece is known, in every later state that still has it, from the pieces that
have been taken for it since and the times when it was to end. -/
theorem bursts_run (c : Config) (before after : List Action)
    (begins : ((start c).run before).Begins id first)
    (mem : (k, e) ∈ ((start c).run (before ++ first.action id :: after)).store.entries)
    (number : e.sequence = ((start c).run before).store.nextSequence) :
    ((start c).run (before ++ first.action id :: after)).IsBurst k e id first
      (((start c).run (before ++ [first.action id])).deltasOf e.sequence after)
      (first.ending?.toList ++
        ((start c).run (before ++ [first.action id])).endingsOf e.sequence after) := by
  have keyed := keyed_run (keyed_start c) (before ++ first.action id :: after)
  have gone := gone_run c (before ++ first.action id :: after)
  have holds := coherent_log_run (coherent_log_start c) before
  have began := (perform_changes ((start c).run before) (first.action id)).coherent holds
  have burst := burst_run began (burst_begins holds begins) after
  have second : (start c).run (before ++ [first.action id]) =
      ((start c).run before).perform (first.action id) := run_append _ _ _
  have final : (start c).run (before ++ first.action id :: after) =
      (((start c).run before).perform (first.action id)).run after := run_append _ _ _
  rw [second, number]
  rw [← final] at burst
  exact isBurst_of_burst keyed gone (number ▸ burst) (keyed.sound.mem_entries.mp mem)

/-- A tool at work. -/
def toolAtWork : List Action := [.handle (.toolStarted (.producer "a") "sh" "make") 0]

/-- The first of three pieces. -/
def firstPiece : Delta := ⟨"Planning ", false, 1⟩

/-- Two more pieces, between which the tool writes and a message is refused.  A fourth piece comes too late,
and so does another tool. -/
def twoMorePieces : List Action :=
  [.handle (.thoughtDelta (.producer "t") "the " false) 2,
    .handle (.toolProgress (.producer "a") "one" 4) 3,
    .handle (.toolStarted (.producer "a") "sh" "make") 4,
    .handle (.thoughtDelta (.producer "t") "fix." true) 5,
    .handle (.thoughtDelta (.producer "t") " No." false) 6,
    .handle (.toolStarted (.producer "b") "sh" "ls") 7]

/-- The thought says what the three pieces say, and has ended with the third. -/
theorem bursts_run_twoMorePieces :
    ∃ e, ((start .standard).run
        (toolAtWork ++ firstPiece.action (.producer "t") :: twoMorePieces)).IsBurst ⟨1, 0⟩ e
      (.producer "t") firstPiece [⟨"the ", false, 2⟩, ⟨"fix.", true, 5⟩] [5, 7] := by
  have pieces : ((start .standard).run (toolAtWork ++ [firstPiece.action (.producer "t")])).deltasOf 1
      twoMorePieces = [⟨"the ", false, 2⟩, ⟨"fix.", true, 5⟩] := by
    decide +kernel
  have endings : firstPiece.ending?.toList ++
      ((start .standard).run (toolAtWork ++ [firstPiece.action (.producer "t")])).endingsOf 1
        twoMorePieces = [5, 7] := by
    decide +kernel
  refine ⟨⟨.producer "t", 1, .thought "Planning the fix.", .completed, some 1, some 5, some 5, false⟩,
    ?_⟩
  rw [← pieces, ← endings]
  refine bursts_run .standard toolAtWork twoMorePieces ?_ (by decide +kernel) (by decide +kernel)
  rw [Begins]
  decide +kernel

end Session

end Chronicle
