import Chronicle.Proofs.Session.Changes
import Chronicle.Proofs.Store.Latest

/-!
# Acknowledgements that name no entry

Of the instructions that wait, an acknowledgement without a known id is for the latest one whose text
matches; if none matches it is for an instruction that was never shown, which is appended.
`Ingested.Acknowledges` says this of what a message leaves.

The search stops at the latest instruction that waits, and asks for its text only then.  So the latest
match is confirmed exactly if no instruction after it waits (`answers_iff_run`).  Otherwise a copy of it
is appended, and it goes on waiting (`not_answers_twoPending_first`).
-/

namespace Chronicle

variable {c : Correlator} {s : Store} {l : Log} {k : Key} {e : Entry}
  {id : Option CorrelationId} {author text : String} {now : Instant}

/-! ## What is asked for -/

/-- The entry is an instruction that waits, and its text matches. -/
def Correlator.Awaits (c : Correlator) (text : String) (e : Entry) : Prop :=
  ∃ author existing, e.kind = .instruction author existing false ∧
    Text.alike existing text c.threshold = true

namespace Ingested

/-- The instruction of a key is confirmed where it stands, and nothing else is changed. -/
structure Confirms (r : Ingested) (s : Store) (k : Key) (e : Entry) (author text : String) : Prop
    where
  result : r.result = .ok (.confirmed k)
  order : r.store.order = s.order
  entry : ∃ e', r.store.get? k = some e' ∧ e'.name = e.name ∧
    e'.kind = .instruction author text true ∧ e'.status = .completed
  others : ∀ k', k' ≠ k → r.store.get? k' = s.get? k'

/-- One confirmed instruction is appended, and no other instruction is changed. -/
structure Adds (r : Ingested) (s : Store) (author text : String) : Prop where
  entry : ∃ k e, r.result = .ok (.appended k) ∧ r.store.order = s.order ++ [k] ∧
    r.store.get? k = some e ∧ e.kind = .instruction author text true ∧ e.status = .completed
  others : ∀ k e, s.get? k = some e → e.kind.isInstruction = true → r.store.get? k = some e

/-- What an acknowledgement of a text is to do. -/
structure Acknowledges (r : Ingested) (c : Correlator) (s : Store) (author text : String) : Prop
    where
  confirms : ∀ k e, s.IsLatest (c.Awaits text) k e → r.Confirms s k e author text
  adds : (∀ ke ∈ s.entries, ¬ c.Awaits text ke.2) → r.Adds s author text

end Ingested

/-! ## What is found -/

namespace Correlator

theorem Awaits.isUnconfirmed (awaits : c.Awaits text e) : e.kind.IsUnconfirmed := by
  obtain ⟨author, existing, kind, -⟩ := awaits
  exact ⟨author, existing, kind⟩

theorem isLatest_of_latestUnconfirmed? (sound : s.Sound)
    (latest : latestUnconfirmed? s = some (k, text)) :
    ∃ e author, s.IsLatest (·.kind.IsUnconfirmed) k e ∧ e.kind = .instruction author text false := by
  obtain ⟨before, e, after, author, split, kind, none_after⟩ := latestUnconfirmed?_split latest
  refine ⟨e, author, sound.isLatest_of_split before after split ⟨author, text, kind⟩ ?_, kind⟩
  rintro ke mem ⟨author', existing, kind'⟩
  exact none_after ke mem author' existing kind'

theorem latestUnconfirmed?_eq_none (none_found : latestUnconfirmed? s = none) :
    ∀ ke ∈ s.entries, ¬ ke.2.kind.IsUnconfirmed := by
  rintro ⟨k, e⟩ mem ⟨author, text, kind⟩
  have not_found := List.findSome?_eq_none_iff.mp none_found (k, e) (List.mem_reverse.mpr mem)
  simp only at kind not_found
  rw [kind] at not_found
  exact absurd not_found (by simp)

/-- The instruction that is found is the latest that waits, and its text matches. -/
theorem isLatest_of_similarInstruction? (sound : s.Sound)
    (similar : c.similarInstruction? s text = some k) :
    ∃ e, s.IsLatest (·.kind.IsUnconfirmed) k e ∧ c.Awaits text e := by
  obtain ⟨existing, latest, alike⟩ := similarInstruction?_eq_some.mp similar
  obtain ⟨e, author, isLatest, kind⟩ := isLatest_of_latestUnconfirmed? sound latest
  exact ⟨e, isLatest, author, existing, kind, alike⟩

/-- If the latest that waits matches, it is found. -/
theorem similarInstruction?_of_isLatest (sound : s.Sound)
    (isLatest : s.IsLatest (·.kind.IsUnconfirmed) k e) (awaits : c.Awaits text e) :
    c.similarInstruction? s text = some k := by
  obtain ⟨author, existing, kind, alike⟩ := awaits
  cases latest : latestUnconfirmed? s with
  | none => exact absurd ⟨author, existing, kind⟩ (latestUnconfirmed?_eq_none latest _ isLatest.mem)
  | some found =>
      obtain ⟨k', text'⟩ := found
      obtain ⟨e', author', isLatest', kind'⟩ := isLatest_of_latestUnconfirmed? sound latest
      obtain ⟨rfl, rfl⟩ := Prod.mk.inj (isLatest'.unique sound isLatest)
      obtain ⟨-, rfl, -⟩ := Kind.instruction.inj (kind'.symm.trans kind)
      exact similarInstruction?_eq_some.mpr ⟨text', latest, alike⟩

/-- An id that was given to no entry is as good as none. -/
theorem acknowledged?_of_unseen (unseen : ∀ id', id = some id' → s.hasSeen id' = false) :
    c.acknowledged? s id text = c.similarInstruction? s text := by
  have unknown : id.bind s.keyOf? = none := by
    cases id with
    | none => rfl
    | some id' =>
        have absent : s.ids.lookup id' = none := by simpa [Store.hasSeen] using unseen id' rfl
        rw [Option.bind_some, Store.keyOf?, absent]
        rfl
  rw [acknowledged?, unknown]

/-! ## What is done -/

theorem acknowledge_of_found (target : c.acknowledged? s id text = some k)
    (found : s.get? k = some e) (instruction : e.kind.isInstruction = true) (label : String) :
    c.acknowledge s label id author text now =
      ⟨.ok (.confirmed k), c, s.update k (·.confirm author text now)⟩ := by
  simp only [acknowledge, target, found, instruction]
  rfl

theorem acknowledge_of_none (target : c.acknowledged? s id text = none)
    (unseen : ∀ id', id = some id' → s.hasSeen id' = false) (label author : String)
    (now : Instant) :
    ∃ id' started, started = c.start s id' (.instruction author text true) .completed now ∧
      c.acknowledge s label id author text now =
        ⟨.ok (.appended started.1), started.2.1, started.2.2⟩ := by
  cases id with
  | none =>
      refine ⟨.mint "input" s.nextSequence, _, rfl, ?_⟩
      simp only [acknowledge, target]
  | some id' =>
      refine ⟨id', _, rfl, ?_⟩
      simp only [acknowledge, target, startNew, unseen id' rfl]
      rfl

end Correlator

namespace Log

theorem Coherent.confirms (holds : l.Coherent) (found : l.store.get? k = some e)
    (unconfirmed : e.kind.IsUnconfirmed) (author text : String) (now : Instant) :
    Ingested.Confirms
      ⟨.ok (.confirmed k), l.correlator, l.store.update k (·.confirm author text now)⟩
      l.store k e author text where
  result := rfl
  order := rfl
  entry := by
    have pending := (holds.entries k e found).isUnconfirmed_iff.mp unconfirmed
    refine ⟨e.confirm author text now, ?_, (e.confirm_frame author text now).1,
      e.confirm_kind author text now, ?_⟩
    · rw [Store.get?_update_self, found]
      rfl
    · rw [Entry.confirm_status, pending]
      rfl
  others k' other := Store.get?_update_of_ne _ _ other

/-- Closing the open thoughts touches no instruction. -/
theorem Coherent.get?_closeThoughts (holds : l.Coherent) (found : l.store.get? k = some e)
    (instruction : e.kind.isInstruction = true) (now : Instant) :
    (l.correlator.closeThoughts l.store now).2.get? k = some e := by
  have shut : e.isOpen = false := by
    obtain ⟨author, text, confirmed, kind⟩ := Kind.isInstruction_iff.mp instruction
    rw [Entry.isOpen, kind]
    exact Bool.and_false _
  exact (Correlator.get?_closeThoughts (holds.not_mem_openThoughts found shut) l.store now).trans found

theorem Coherent.adds (holds : l.Coherent) (id : CorrelationId) (author text : String)
    (now : Instant) {started : Key × Correlator × Store}
    (is : started = l.correlator.start l.store id (.instruction author text true) .completed now) :
    Ingested.Adds ⟨.ok (.appended started.1), started.2.1, started.2.2⟩ l.store author text := by
  have closing : Changes (fun _ _ => False) l _ := Correlator.closeThoughts_changes _ _ now
  have sound : (l.correlator.closeThoughts l.store now).2.Sound := (closing.coherent holds).sound
  have order : (l.correlator.closeThoughts l.store now).2.order = l.store.order :=
    (Correlator.closeThoughts_frame l.correlator l.store now).2.2
  have get? := sound.get?_append id (.instruction author text true) .completed now
  have not_mem := sound.append_not_mem id (.instruction author text true) .completed now
  subst is
  refine ⟨⟨_, _, rfl, ?_, (get? _).trans (if_pos rfl), rfl, rfl⟩, fun k e found instruction => ?_⟩
  · rw [← order]
    exact Store.order_append _ _ _ _ _
  · refine (get? k).trans ((if_neg fun same => not_mem ?_).trans
      (holds.get?_closeThoughts found instruction now))
    rw [← same, order]
    exact holds.sound.mem_order found

/-- The latest match is confirmed exactly if it is the latest instruction that waits. -/
theorem Coherent.acknowledges_iff (holds : l.Coherent)
    (unseen : ∀ id', id = some id' → l.store.hasSeen id' = false) (author text : String)
    (now : Instant) :
    (l.correlator.apply l.store (.inputAcknowledged id author text) now).Acknowledges
        l.correlator l.store author text ↔
      ∀ k e, l.store.IsLatest (l.correlator.Awaits text) k e →
        l.store.IsLatest (·.kind.IsUnconfirmed) k e := by
  have sound : l.store.Sound := holds.sound
  have target : l.correlator.acknowledged? l.store id text =
      l.correlator.similarInstruction? l.store text := Correlator.acknowledged?_of_unseen unseen
  simp only [Correlator.apply]
  cases similar : l.correlator.similarInstruction? l.store text with
  | some k =>
      obtain ⟨e, latest, awaits⟩ := Correlator.isLatest_of_similarInstruction? sound similar
      have found := sound.mem_entries.mp latest.mem
      have is_match : l.store.IsLatest (l.correlator.Awaits text) k e :=
        ⟨latest.mem, awaits, fun ke mem awaits => latest.highest ke mem awaits.isUnconfirmed⟩
      rw [Correlator.acknowledge_of_found (target.trans similar) found
        awaits.isUnconfirmed.isInstruction]
      refine iff_of_true ⟨fun k' e' other => ?_, fun none_awaits => ?_⟩ fun k' e' other => ?_
      · obtain ⟨rfl, rfl⟩ := Prod.mk.inj (other.unique sound is_match)
        exact holds.confirms found awaits.isUnconfirmed author text now
      · exact absurd awaits (none_awaits _ latest.mem)
      · obtain ⟨rfl, rfl⟩ := Prod.mk.inj (other.unique sound is_match)
        exact latest
  | none =>
      obtain ⟨id', started, is, same⟩ := Correlator.acknowledge_of_none (target.trans similar) unseen
        (Message.inputAcknowledged id author text).label author now
      have adds := holds.adds id' author text now is
      rw [same]
      by_cases waits : ∃ ke ∈ l.store.entries, l.correlator.Awaits text ke.2
      · -- the latest match waits, another instruction after it does too, and nothing is confirmed
        obtain ⟨k, e, is_match⟩ := sound.exists_isLatest waits
        refine iff_of_false (fun acknowledges => ?_) fun latest => ?_
        · exact absurd (acknowledges.confirms k e is_match).result (by simp)
        · have found := Correlator.similarInstruction?_of_isLatest sound (latest k e is_match)
            is_match.holds
          exact absurd (similar.symm.trans found) (by simp)
      · refine iff_of_true ⟨fun k e is_match => ?_, fun _ => adds⟩ fun k e is_match => ?_
        · exact absurd ⟨_, is_match.mem, is_match.holds⟩ waits
        · exact absurd ⟨_, is_match.mem, is_match.holds⟩ waits

end Log

namespace Session

/-- An acknowledgement that comes at `now` does what it is to do. -/
def Answers (s : Session) (id : Option CorrelationId) (author text : String) (now : Instant) : Prop :=
  (s.correlator.apply s.store (.inputAcknowledged id author text) now).Acknowledges
    s.correlator s.store author text

/-- In every state that is reached, an acknowledgement under no id, or under one that was given to no
entry, does what it is to do exactly if no instruction waits after the latest match. -/
theorem answers_iff_run (c : Config) (actions : List Action) (id : Option CorrelationId)
    (author text : String) (now : Instant)
    (unseen : ∀ id', id = some id' → ((start c).run actions).store.hasSeen id' = false) :
    ((start c).run actions).Answers id author text now ↔
      ∀ k e, ((start c).run actions).store.IsLatest
          (((start c).run actions).correlator.Awaits text) k e →
        ((start c).run actions).store.IsLatest (·.kind.IsUnconfirmed) k e := by
  have holds := coherent_log_run (coherent_log_start c) actions
  exact holds.acknowledges_iff unseen author text now

/-- Two instructions wait. -/
def twoPending : List Action :=
  [.handle (.inputSubmitted (.producer "a") "ada" "run the benchmarks") 0,
    .handle (.inputSubmitted (.producer "b") "ada" "update the changelog") 0]

/-- The second of them is acknowledged as it should be, under an id that is not known. -/
theorem answers_twoPending_second :
    ((start .standard).run twoPending).store.hasSeen (.producer "c") = false ∧
    ((start .standard).run twoPending).Answers (some (.producer "c")) "server"
      "update the changelog" 0 := by
  have unseen : ((start .standard).run twoPending).store.hasSeen (.producer "c") = false := by
    decide +kernel
  have second : ((start .standard).run twoPending).store.entries[1]? =
      some (⟨1, 0⟩, ⟨.producer "b", 1, .instruction "ada" "update the changelog" false, .pending,
        some 0, none, some 0, false⟩) := by decide +kernel
  have none_after : ∀ ke ∈ ((start .standard).run twoPending).store.entries, ke.2.sequence ≤ 1 := by
    decide +kernel
  refine ⟨unseen, (answers_iff_run .standard twoPending (some (.producer "c")) "server"
    "update the changelog" 0 fun id' same => Option.some.inj same ▸ unseen).mpr ?_⟩
  intro k e is_match
  have at_end : 1 ≤ e.sequence := is_match.highest _ (List.mem_of_getElem? second)
    ⟨"ada", "update the changelog", rfl, by simp [Text.alike]⟩
  exact ⟨is_match.mem, is_match.holds.isUnconfirmed,
    fun ke mem _ => Nat.le_trans (none_after ke mem) at_end⟩

/-- The first of them is acknowledged, and a third entry appears. -/
theorem not_answers_twoPending_first :
    ¬ ((start .standard).run twoPending).Answers none "server" "run the benchmarks" 0 := by
  intro answers
  have first : ((start .standard).run twoPending).store.entries[0]? =
      some (⟨0, 0⟩, ⟨.producer "a", 0, .instruction "ada" "run the benchmarks" false, .pending,
        some 0, none, some 0, false⟩) := by decide +kernel
  have appended : (((start .standard).run twoPending).correlator.apply
      ((start .standard).run twoPending).store
      (.inputAcknowledged none "server" "run the benchmarks") 0).result =
        .ok (.appended ⟨2, 0⟩) := by decide +kernel
  have sound : ((start .standard).run twoPending).store.Sound :=
    (coherent_log_run (coherent_log_start .standard) twoPending).sound
  have waits : ∃ ke ∈ ((start .standard).run twoPending).store.entries,
      ((start .standard).run twoPending).correlator.Awaits "run the benchmarks" ke.2 :=
    ⟨_, List.mem_of_getElem? first, "ada", "run the benchmarks", rfl, by simp [Text.alike]⟩
  obtain ⟨k, e, is_match⟩ := sound.exists_isLatest waits
  have confirmed := (answers.confirms k e is_match).result
  rw [appended] at confirmed
  exact absurd confirmed (by simp)

end Session

end Chronicle
