import Chronicle.Proofs.Correlator
import Chronicle.Proofs.Timeline.Log

/-!
# What a message comes to

Every message is a few small changes of the log (`Correlator.apply_changes`): an entry is changed in
place, or the open thoughts are closed and then an entry is appended.  A refused message is no change
at all.

An acknowledgement is the one message that can touch a finished entry, and then only the instruction
that it names by its id: those it finds by their text have not been confirmed yet
(`latestUnconfirmed?_found`).
-/

namespace Chronicle

/-- The log that a message leaves. -/
def Ingested.log (r : Ingested) : Log := ⟨r.correlator, r.store⟩

namespace Correlator

open Log (Change Changes)

variable {reword : Key → Kind → Prop} {c : Correlator} {s : Store} {m : Message} {now : Instant}

/-! ## Starting an entry -/

theorem closeThoughts_changes (c : Correlator) (s : Store) (now : Instant) :
    Changes reword ⟨c, s⟩ ⟨(c.closeThoughts s now).1, (c.closeThoughts s now).2⟩ := by
  obtain ⟨threshold, thoughts⟩ := c
  simp only [closeThoughts]
  induction thoughts generalizing s with
  | nil => exact .refl
  | cons k rest ih =>
      have close : Change reword ⟨⟨threshold, k :: rest⟩, s⟩
          ⟨⟨threshold, rest⟩, s.update k (Entry.closeEdit now).run⟩ := .closeThought _ rfl now
      exact .head close (ih _)

/-- Closing thoughts gives no id and takes no number, and every entry stays where it is. -/
theorem closeThoughts_frame (c : Correlator) (s : Store) (now : Instant) :
    (c.closeThoughts s now).2.ids = s.ids ∧
      (c.closeThoughts s now).2.nextSequence = s.nextSequence ∧
      (c.closeThoughts s now).2.order = s.order := by
  simp only [closeThoughts]
  refine List.foldlRecOn (motive := fun s' : Store =>
    s'.ids = s.ids ∧ s'.nextSequence = s.nextSequence ∧ s'.order = s.order)
    c.openThoughts _ ⟨rfl, rfl, rfl⟩ ?_
  intro s' same k _
  exact same

theorem names_closeThoughts (c : Correlator) (s : Store) (now : Instant) :
    (c.closeThoughts s now).2.names = s.names := by
  simp only [closeThoughts]
  refine List.foldlRecOn (motive := fun s' : Store => s'.names = s.names) c.openThoughts _ rfl ?_
  intro s' same k _
  exact (s'.names_update k (Entry.closeEdit now)).trans same

/-- A key that names no open thought names what it named. -/
theorem get?_closeThoughts {k : Key} (closed : k ∉ c.openThoughts) (s : Store) (now : Instant) :
    (c.closeThoughts s now).2.get? k = s.get? k := by
  simp only [closeThoughts]
  refine List.foldlRecOn (motive := fun s' : Store => s'.get? k = s.get? k) c.openThoughts _ rfl ?_
  intro s' same k' mem
  rw [Store.get?_update_of_ne, same]
  exact fun at_k => closed (at_k ▸ mem)

theorem sound_closeThoughts (c : Correlator) {s : Store} (sound : s.Sound) (now : Instant) :
    (c.closeThoughts s now).2.Sound := by
  simp only [closeThoughts]
  refine List.foldlRecOn (motive := Store.Sound) c.openThoughts _ sound ?_
  intro s' sound k _
  exact sound.edit k (Entry.closeEdit now)

/-- The open thoughts are closed, and then the entry is appended.  If that is a thought and runs, it is
the one that is open. -/
theorem start_changes (c : Correlator) (s : Store) (id : CorrelationId) (kind : Kind)
    (status : Status) (now : Instant) (suits : kind.Suits status)
    (unused : s.hasSeen id = false ∨ ∃ sort, id = .mint sort s.nextSequence) :
    Changes reword ⟨c, s⟩
      ⟨{ c with
          openThoughts :=
            if status == .running && kind.isThought then [(c.start s id kind status now).1] else [] },
        (c.start s id kind status now).2.2⟩ := by
  obtain ⟨ids, next, -⟩ := closeThoughts_frame c s now
  have unused' : (c.closeThoughts s now).2.hasSeen id = false ∨
      ∃ sort, id = .mint sort (c.closeThoughts s now).2.nextSequence := by
    rw [next, Store.hasSeen, ids]
    exact unused
  exact (closeThoughts_changes c s now).tail (.append _ rfl id kind status now suits unused')

/-! ## Every message -/

/-- A message is a few small changes, of which one may reword an instruction, if the message is an
acknowledgement that names it. -/
theorem apply_changes (c : Correlator) (s : Store) (m : Message) (now : Instant)
    (allowed : ∀ id author text k, m = .inputAcknowledged (some id) author text →
      s.keyOf? id = some k → reword k (.instruction author text true)) :
    Changes reword ⟨c, s⟩ (c.apply s m now).log := by
  have deed := c.apply_deed s m now
  have turn {k : Key} {e : Entry} (found : s.get? k = some e) (f : Edit)
      (turns : e.Turn (reword k) (f.run e)) :
      Change reword ⟨c, s⟩ ⟨c, s.update k f.run⟩ := by
    refine .turn ⟨c, s⟩ k f fun e' found' => ?_
    obtain rfl := Option.some.inj (found.symm.trans found')
    exact turns
  generalize c.apply s m now = r at deed
  cases deed with
  | refused e stale duplicate => exact .refl
  | ignored other => exact .refl
  | started id kind status suits names starts =>
      exact start_changes c s id kind status now suits names.unused
  | recorded found running tool p written =>
      exact .single (turn found (p.edit now) (.record running tool p.line p.bytes p.lines now))
  | ended found running tool id codes output summary is named =>
      have complete := turn found (Entry.completeEdit codes output summary now)
        (.complete running tool codes output summary now)
      exact .tail (.single complete) (.releaseLease _ _)
  | thought found opened text =>
      exact .single (turn found (Entry.thinkEdit text now) (.think opened text now))
  | thoughtLast found opened text => exact .single (.endThought _ found opened text now)
  | confirmed found instruction author text named =>
      refine .single (turn found (Entry.confirmEdit author text now)
        (.confirm instruction author text now ?_))
      rcases named with ⟨id, is, known⟩ | unconfirmed
      · exact .inr (allowed id author text _ is known)
      · exact .inl unconfirmed

end Correlator

end Chronicle
