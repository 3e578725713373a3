import Chronicle.Proofs.Correlator
import Chronicle.Proofs.Session.Eviction
import Chronicle.Session.Handling

/-!
# Refused messages

A message for the timeline that is refused changes nothing but one counter, and the answer is that
nothing is to be drawn again; one that is taken in changes neither counter, and the answer is that the
screen has changed (`handle_of_isIngested`).  Which counter it is depends on one thing: whether the
message is output for an entry that is gone.
-/

namespace Chronicle

/-- Of the two counters of messages that were dropped, one goes up by one. -/
def Counters.drop (c : Counters) (isStale : Bool) : Counters :=
  if isStale then { c with stale := c.stale + 1 } else { c with malformed := c.malformed + 1 }

theorem Counters.evicted_refuse (c : Counters) (e : IngestionError) :
    (c.refuse e).evicted = c.evicted := by
  cases e <;> rfl

theorem Counters.refuse_eq_drop (c : Counters) {e : IngestionError} {isStale : Bool}
    (stale : isStale = true ↔ ∃ k, e = .staleHandle k) : c.refuse e = c.drop isStale := by
  rw [drop]
  cases e with
  | staleHandle k => rw [if_pos (stale.mpr ⟨k, rfl⟩), refuse]
  | _ =>
      rw [if_neg fun holds => by simpa using stale.mp holds]
      rfl

namespace Session

theorem handle_eq_ingest (s : Session) {m : Message} (now : Instant)
    (ingested : m.isIngested = true) : s.handle m now = s.ingest m now := by
  cases m with
  | connectionError reason => exact absurd ingested (by simp [Message.isIngested])
  | connectionRestored => exact absurd ingested (by simp [Message.isIngested])
  | command c => exact absurd ingested (by simp [Message.isIngested])
  | _ => rfl

/-- An entry that is new may push out old ones, which is counted elsewhere. -/
theorem counters_afterAppend (s : Session) (k : Key) :
    (s.afterAppend k).counters.malformed = s.counters.malformed ∧
      (s.afterAppend k).counters.stale = s.counters.stale := by
  obtain ⟨store, tokens, evicted, viewport, search, same⟩ := enforceHistoryCap_frame
    ({ s with store := s.fork.markAppended s.store k }.moveWindow Viewport.onAppend)
  unfold afterAppend
  simp only
  rw [same]
  exact ⟨rfl, rfl⟩

theorem afterOutcome_counts (s : Session) {o : Outcome} (concerns : o ≠ .ignored) :
    (s.afterOutcome o).1 = true ∧
      (s.afterOutcome o).2.counters.malformed = s.counters.malformed ∧
      (s.afterOutcome o).2.counters.stale = s.counters.stale := by
  cases o with
  | appended k => exact ⟨rfl, s.counters_afterAppend k⟩
  | updated k => exact ⟨rfl, rfl, rfl⟩
  | finished k => exact ⟨rfl, rfl, rfl⟩
  | confirmed k => exact ⟨rfl, rfl, rfl⟩
  | ignored => exact absurd rfl concerns

/-- A refusal says that an entry is gone exactly when the message is output for that entry. -/
theorem refused_stale_iff {c : Correlator} {s : Store} {m : Message} {now : Instant}
    {e : IngestionError} (refused : (c.apply s m now).result = .error e) :
    m.isStale s = true ↔ ∃ k, e = .staleHandle k := by
  constructor
  · intro stale
    obtain ⟨target, chunk, -, applied⟩ := Correlator.apply_of_isStale c now stale
    rw [applied] at refused
    exact ⟨target, (Except.error.inj refused).symm⟩
  · rintro ⟨k, rfl⟩
    have effect := c.apply_effect s m now
    generalize c.apply s m now = r at effect refused
    cases effect with
    | refused e stale => exact stale k (Except.error.inj refused)
    | _ => exact absurd refused (by simp)

/-- The correlator leaves everything as it was, so that a refused message is only counted. -/
theorem ingest_of_error (s : Session) {m : Message} {now : Instant} {e : IngestionError}
    (refused : (s.correlator.apply s.store m now).result = .error e) :
    s.ingest m now = (false, { s with counters := s.counters.refuse e }) := by
  have effect := s.correlator.apply_effect s.store m now
  rw [ingest]
  generalize s.correlator.apply s.store m now = r at effect refused ⊢
  cases effect with
  | refused e' stale =>
      obtain rfl := Except.error.inj refused
      rfl
  | _ => exact absurd refused (by simp)

theorem ingest_of_ok (s : Session) {m : Message} {now : Instant} {o : Outcome}
    (ingested : m.isIngested = true)
    (accepted : (s.correlator.apply s.store m now).result = .ok o) :
    (s.ingest m now).1 = true ∧
      (s.ingest m now).2.counters.malformed = s.counters.malformed ∧
      (s.ingest m now).2.counters.stale = s.counters.stale := by
  have effect := s.correlator.apply_effect s.store m now
  rw [ingest]
  simp only [accepted]
  refine afterOutcome_counts _ ?_
  rintro rfl
  generalize s.correlator.apply s.store m now = r at effect accepted
  cases effect with
  | ignored other => exact absurd ingested (by simp [other])
  | _ => exact absurd accepted (by simp [Correlator.refuse])

/-- The answer to a message for the timeline says whether it is taken. -/
theorem handle_eq_isOk (s : Session) {m : Message} (ingested : m.isIngested = true) (now : Instant) :
    (s.handle m now).1 = (s.correlator.apply s.store m now).result.isOk := by
  rw [handle_eq_ingest s now ingested]
  cases answer : (s.correlator.apply s.store m now).result with
  | ok o => exact (ingest_of_ok s ingested answer).1
  | error refusal => exact congrArg Prod.fst (ingest_of_error s answer)

/-- Only output for an entry that is gone is refused for that. -/
theorem staleHandle_streamDelta {c : Correlator} {s : Store} {m : Message} {now : Instant} {k : Key}
    (refused : (c.apply s m now).result = .error (.staleHandle k)) :
    ∃ chunk, m = .streamDelta k chunk := by
  obtain ⟨target, chunk, rfl, applied⟩ :=
    Correlator.apply_of_isStale c now ((refused_stale_iff refused).mpr ⟨k, rfl⟩)
  rw [applied] at refused
  obtain rfl := IngestionError.staleHandle.inj (Except.error.inj refused)
  exact ⟨chunk, rfl⟩

/-- A message for the timeline is refused, and then one counter is all that changes, or it is taken in,
and then neither counter does. -/
theorem handle_of_isIngested (s : Session) (m : Message) (now : Instant) :
    (∀ k, (s.correlator.apply s.store m now).result = .error (.staleHandle k) →
      ∃ chunk, m = .streamDelta k chunk) ∧
    (m.isIngested = true →
      (∀ e, (s.correlator.apply s.store m now).result = .error e →
        s.handle m now = (false, { s with counters := s.counters.drop (m.isStale s.store) })) ∧
      ∀ o, (s.correlator.apply s.store m now).result = .ok o →
        (s.handle m now).1 = true ∧
        (s.handle m now).2.counters.malformed = s.counters.malformed ∧
        (s.handle m now).2.counters.stale = s.counters.stale) := by
  refine ⟨fun k refused => staleHandle_streamDelta refused, fun ingested => ?_⟩
  rw [handle_eq_ingest s now ingested]
  refine ⟨fun e refused => ?_, fun o accepted => ingest_of_ok s ingested accepted⟩
  rw [ingest_of_error s refused, s.counters.refuse_eq_drop (refused_stale_iff refused)]

/-- Output for an entry that never was, the end of a tool that was never started, and a tool that
starts. -/
theorem handle_of_isIngested_start :
    ((start .standard).handle (.streamDelta ⟨0, 0⟩ "") 0).2.counters = ⟨0, 1, 0, 0⟩ ∧
      ((start .standard).handle (.toolCompleted (.producer "a") [] "" none) 0).2.counters =
        ⟨1, 0, 0, 0⟩ ∧
      ((start .standard).handle (.toolStarted (.producer "a") "" "") 0).1 = true := by
  have stale := (handle_of_isIngested (start .standard) (.streamDelta ⟨0, 0⟩ "") 0).2 rfl
  have unknown := (handle_of_isIngested (start .standard)
    (.toolCompleted (.producer "a") [] "" none) 0).2 rfl
  have taken := (handle_of_isIngested (start .standard)
    (.toolStarted (.producer "a") "" "") 0).2 rfl
  refine ⟨?_, ?_, (taken.2 (.appended ⟨0, 0⟩) rfl).1⟩
  · rw [stale.1 _ rfl]
    rfl
  · rw [unknown.1 _ rfl]
    rfl

end Session

end Chronicle
