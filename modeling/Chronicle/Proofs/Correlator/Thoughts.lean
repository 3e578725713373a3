import Chronicle.Proofs.Correlator.Tools

/-!
# What a message does to a thought

A piece of a thought is taken if the thought is open (`apply_delta`), and refused if not
(`apply_delta_refused`).  Nothing else changes what a thought says: an entry that is appended closes it, and
every other message leaves it as it was (`thought_apply`).  A piece that names no entry begins one
(`apply_first`).
-/

namespace Chronicle

theorem Message.delta?_eq_some {s : Store} {m : Message} {now : Instant} {k : Key} {d : Delta} :
    m.delta? s now = some (k, d) ↔
      ∃ id, m = .thoughtDelta id d.text d.done ∧ s.keyOf? id = some k ∧ d.time = now := by
  constructor
  · intro piece
    cases m with
    | thoughtDelta id text done =>
        obtain ⟨k', named, same⟩ := Option.map_eq_some_iff.mp piece
        obtain ⟨rfl, rfl⟩ := Prod.mk.inj same
        exact ⟨id, rfl, named, rfl⟩
    | _ => exact absurd piece (by simp [delta?])
  · rintro ⟨id, rfl, named, rfl⟩
    rw [delta?, named]
    rfl

theorem Kind.not_isThought {kind : Kind} (tool : kind.isToolUse = true) : kind.isThought = false := by
  obtain ⟨use, rfl⟩ := isToolUse_iff.mp tool
  rfl

namespace Entry

variable {e : Entry}

/-- A thought that is not open has been closed before. -/
theorem closeBurst_of_not_isOpen (shut : e.isOpen = false) (thought : e.kind.isThought = true)
    (now : Instant) : e.closeBurst now = e := by
  have idle : e.isRunning = false := by simpa [isOpen, thought] using shut
  rw [closeBurst, if_neg (by simp [idle])]

theorem run_edit_kind {body : String} (kind : e.kind = .thought body) (d : Delta) :
    (d.edit.run e).kind = .thought (body ++ d.text) := by
  rw [Delta.edit]
  split <;> simp [thinkLastEdit, thinkEdit, finish, think, kind]

theorem run_edit_started (e : Entry) (d : Delta) : (d.edit.run e).started = e.started := by
  rw [Delta.edit]
  split <;> rfl

/-- The last piece of a thought completes it. -/
theorem run_edit_status (e : Entry) (d : Delta) :
    (d.edit.run e).status = if d.done then .completed else e.status := by
  rw [Delta.edit]
  split <;> rfl

theorem run_edit_ended (e : Entry) (d : Delta) :
    (d.edit.run e).ended = if d.done then some d.time else e.ended := by
  rw [Delta.edit]
  split <;> rfl

end Entry

namespace Correlator

variable {c : Correlator} {s : Store} {m : Message} {now : Instant} {k : Key} {e : Entry} {d : Delta}

/-! ## Pieces -/

/-- A piece of an open thought is taken. -/
theorem apply_delta (c : Correlator) (found : s.get? k = some e) (opened : e.isOpen = true)
    (piece : m.delta? s now = some (k, d)) :
    ∃ o c', c.apply s m now = ⟨.ok o, c', s.update k d.edit.run⟩ := by
  obtain ⟨id, rfl, named, rfl⟩ := Message.delta?_eq_some.mp piece
  obtain ⟨runs, thought⟩ := Bool.and_eq_true_iff.mp opened
  simp only [apply, thoughtDelta, named, found, runs, thought, Bool.not_true, Bool.false_eq_true,
    if_false, Delta.edit]
  split
  · exact ⟨.finished k, _, rfl⟩
  · exact ⟨.updated k, c, rfl⟩

/-- A piece for anything else is refused. -/
theorem apply_delta_refused (c : Correlator) (found : s.get? k = some e) (shut : e.isOpen = false)
    (piece : m.delta? s now = some (k, d)) :
    ∃ refusal, c.apply s m now = c.refuse s refusal := by
  obtain ⟨id, rfl, named, rfl⟩ := Message.delta?_eq_some.mp piece
  simp only [apply, thoughtDelta, named, found]
  split
  · exact ⟨_, rfl⟩
  · next thought =>
      split
      · exact ⟨_, rfl⟩
      · next runs =>
          have opened : e.isOpen = true :=
            Bool.and_eq_true_iff.mpr ⟨by simpa using runs, by simpa using thought⟩
          exact absurd (shut.symm.trans opened) (by simp)

/-! ## A thought after a message -/

/-- Closing the open thoughts closes every thought that is there and runs. -/
theorem closeThoughts_thought (holds : Log.Coherent ⟨c, s⟩) (found : s.get? k = some e)
    (thought : e.kind.isThought = true) (now : Instant) :
    (c.closeThoughts s now).2.get? k = some (e.closeBurst now) := by
  cases opened : e.isOpen with
  | true =>
      have one : c.openThoughts = [k] := holds.openThoughts_eq found opened
      simp only [closeThoughts, one, List.foldl_cons, List.foldl_nil, Store.get?_update_self, found]
      rfl
  | false =>
      have same : e.closeBurst now = e := Entry.closeBurst_of_not_isOpen opened thought now
      rw [same, get?_closeThoughts (holds.not_mem_openThoughts found opened), found]

/-- A thought that is there stays there, and nothing but a piece for it changes what it says: an entry that is
appended closes it, and every other message leaves it as it was. -/
theorem thought_apply (holds : Log.Coherent ⟨c, s⟩) (found : s.get? k = some e)
    (thought : e.kind.isThought = true)
    (untaken : ∀ d, m.delta? s now = some (k, d) → (c.apply s m now).result.isOk = false) :
    ((c.apply s m now).store.nextSequence = s.nextSequence + 1 ∧
      (c.apply s m now).store.get? k = some (e.closeBurst now)) ∨
    ((c.apply s m now).store.nextSequence = s.nextSequence ∧
      (c.apply s m now).store.get? k = some e) := by
  -- What changes in place is another entry.
  have edited {k₀ : Key} (f : Edit) (apart : k₀ ≠ k) : (s.update k₀ f.run).get? k = some e := by
    rwa [Store.get?_update_of_ne s _ apart.symm]
  have apart {k₀ : Key} {e₀ : Entry} (found₀ : s.get? k₀ = some e₀)
      (differs : e₀.kind.isThought = false) : k₀ ≠ k := by
    rintro rfl
    obtain rfl := Option.some.inj (found.symm.trans found₀)
    exact absurd (differs.symm.trans thought) Bool.false_ne_true
  have deed := c.apply_deed s m now
  generalize c.apply s m now = r at deed untaken ⊢
  cases deed with
  | refused refusal stale => exact .inr ⟨rfl, found⟩
  | ignored => exact .inr ⟨rfl, found⟩
  | started id kind status suits names starts =>
      have closed := sound_closeThoughts c holds.sound now
      refine .inl ⟨?_, ?_⟩
      · show ((c.closeThoughts s now).2.append id kind status now).2.nextSequence = _
        rw [Store.nextSequence_append, (c.closeThoughts_frame s now).2.1]
      · have after := closeThoughts_thought holds found thought now
        exact closed.get?_append_of_some id kind status now after
  | recorded found₀ running tool p written =>
      exact .inr ⟨rfl, edited (p.edit now) (apart found₀ (Kind.not_isThought tool))⟩
  | ended found₀ running tool id codes output summary is named =>
      have kept := edited (Entry.completeEdit codes output summary now)
        (apart found₀ (Kind.not_isThought tool))
      exact .inr ⟨rfl, by rwa [Store.get?_releaseLease]⟩
  | thought found₀ opened text written =>
      refine .inr ⟨rfl, edited (Entry.thinkEdit text now) ?_⟩
      rintro rfl
      exact absurd (untaken _ written) (by simp [Except.isOk, Except.toBool])
  | thoughtLast found₀ opened text written =>
      refine .inr ⟨rfl, edited (Entry.thinkLastEdit text now) ?_⟩
      rintro rfl
      exact absurd (untaken _ written) (by simp [Except.isOk, Except.toBool])
  | confirmed found₀ instruction author text allowed =>
      obtain ⟨_, _, _, kind⟩ := Kind.isInstruction_iff.mp instruction
      refine .inr ⟨rfl, edited (Entry.confirmEdit author text now) (apart found₀ ?_)⟩
      rw [kind]
      rfl

/-! ## The first piece -/

/-- A piece for which an entry is appended begins a thought. -/
theorem apply_first {id : CorrelationId} (c : Correlator) (d : Delta)
    (appended : s.nextSequence <
      (c.apply s (.thoughtDelta id d.text d.done) d.time).store.nextSequence) :
    (c.apply s (.thoughtDelta id d.text d.done) d.time).store =
      (c.start s id (.thought d.text) d.status d.time).2.2 := by
  cases known : s.keyOf? id with
  | some k =>
      obtain ⟨e, found⟩ := Option.isSome_iff_exists.mp (contains_of_keyOf? known)
      have piece : (Message.thoughtDelta id d.text d.done).delta? s d.time = some (k, d) :=
        Message.delta?_eq_some.mpr ⟨id, rfl, known, rfl⟩
      cases opened : e.isOpen with
      | true =>
          obtain ⟨o, c', took⟩ := apply_delta c found opened piece
          rw [took] at appended
          exact absurd appended (Nat.lt_irrefl _)
      | false =>
          obtain ⟨refusal, refused⟩ := apply_delta_refused c found opened piece
          rw [refused] at appended
          exact absurd appended (Nat.lt_irrefl _)
  | none =>
      simp only [apply, thoughtDelta, known] at appended ⊢
      split at appended
      · exact absurd appended (Nat.lt_irrefl _)
      · next unseen =>
          rw [if_neg unseen]
          rfl

end Correlator

end Chronicle
