import Chronicle.Notification
import Chronicle.Proofs.Session.Changes
import Chronicle.Proofs.Store.Recall

/-!
# Nobody forges ids

Ids are minted by the timeline alone.  A message from outside can name one only if it has been minted
before; a producer cannot even do that, as what it names is read as an id of its own.  As long as no id is
forged, no id is ever given twice: every action is a few operations on the store, each an `Advance`
(`perform_advances`), and so is every run (`advances_run`).
-/

namespace Chronicle

namespace Message

/-- If the message names a minted id, an entry has been given its number before. -/
def IsUnforged (m : Message) (s : Store) : Prop :=
  ∀ sort n, m.id? = some (.mint sort n) → n < s.nextSequence

/-- The message names no minted id. -/
def isOrdinary (m : Message) : Bool := m.id?.all fun id => !id.isMinted

theorem isMinted_of_isOrdinary {m : Message} {id : CorrelationId} (ordinary : m.isOrdinary = true)
    (named : m.id? = some id) : id.isMinted = false := by
  simpa [isOrdinary, named] using ordinary

theorem isUnforged_of_isOrdinary {m : Message} (ordinary : m.isOrdinary = true) (s : Store) :
    m.IsUnforged s := by
  intro sort n named
  exact absurd (isMinted_of_isOrdinary ordinary named) (by simp [CorrelationId.mint,
    CorrelationId.isMinted])

end Message

/-- What a producer writes names no minted id, whatever it writes. -/
theorem Notification.isOrdinary_toMessage (n : Notification) : n.toMessage.isOrdinary = true := by
  cases n with
  | log id level message => cases id <;> rfl
  | userInputAck id author text => cases id <;> rfl
  | _ => rfl

open Store (Advance Advances)

/-- Before an entry starts, entries are changed in place at the most. -/
theorem Correlator.closeThoughts_advances (c : Correlator) (s : Store) (now : Instant) :
    Advances s (c.closeThoughts s now).2 := by
  simp only [closeThoughts]
  refine List.foldlRecOn (motive := fun s' : Store => Advances s s') c.openThoughts _ .refl ?_
  intro s' before k _
  exact before.tail (.edit k (Entry.closeEdit now))

/-- A message that names no forged id gives no id twice. -/
theorem Correlator.apply_advances (c : Correlator) {s : Store} (reserves : s.Reserves) {m : Message}
    (unforged : m.IsUnforged s) (now : Instant) : Advances s (c.apply s m now).store := by
  have deed := c.apply_deed s m now
  generalize c.apply s m now = r at deed
  cases deed with
  | refused e stale duplicate => exact .refl
  | ignored other => exact .refl
  | started id kind status suits names starts =>
      obtain ⟨ids, next, -⟩ := c.closeThoughts_frame s now
      have unseen : (c.closeThoughts s now).2.hasSeen id = false := by
        rw [Store.hasSeen, ids]
        cases names with
        | given named unseen => exact unseen
        | minted sort anonymous => exact reserves.unseen sort
      have due : id.IsDue (c.closeThoughts s now).2.nextSequence := by
        rw [next]
        cases names with
        | given named unseen =>
            intro sort n minted
            exact Nat.le_of_lt (unforged sort n (minted ▸ named))
        | minted sort anonymous =>
            intro sort' n minted
            exact (CorrelationId.number_eq_of_mint_eq minted).ge
      exact (c.closeThoughts_advances s now).tail (.append id kind status now unseen due)
  | recorded found running tool p written => exact .single (.edit _ (p.edit now))
  | ended found running tool id codes output summary is named =>
      exact .tail (.single (.edit _ (Entry.completeEdit codes output summary now))) (.releaseLease _)
  | thought found opened text => exact .single (.edit _ (Entry.thinkEdit text now))
  | thoughtLast found opened text => exact .single (.edit _ (Entry.thinkLastEdit text now))
  | confirmed found instruction author text allowed =>
      exact .single (.edit _ (Entry.confirmEdit author text now))

theorem Log.Tends.advances {l l' : Log} (tends : Log.Tends l l') (sound : l.store.Sound) :
    Advances l.store l'.store :=
  tends.preserves (motive := fun l' => Advances l.store l'.store) sound .refl
    (fun _ k discarded before => before.tail (.edit k (Edit.setDiscarded discarded)))
    fun _ _ _ _ found finished at_p before => before.tail (.without found finished at_p)

namespace Session

variable {s : Session}

/-- If the action hands a message in, it names no forged id. -/
def Action.IsUnforged (s : Session) : Action → Prop
  | .handle m _ => m.IsUnforged s.store
  | _ => True

/-- If the action hands a message in, it names no minted id at all. -/
def Action.isOrdinary : Action → Bool
  | .handle m _ => m.isOrdinary
  | _ => true

/-- No message of a run names a forged id. -/
def Unforged (s : Session) : List Action → Prop
  | [] => True
  | a :: rest => a.IsUnforged s ∧ (s.perform a).Unforged rest

/-- An action whose message names no forged id gives no id twice. -/
theorem perform_advances (holds : s.store.Remembers) {a : Action} (unforged : a.IsUnforged s) :
    Advances s.store (s.perform a).store := by
  rcases perform_course s a with ⟨s₁, m, now, taken, before, after⟩ | ⟨-, tends⟩
  · have first : Advances s.store s₁.store := before.advances holds.sound
    have holds₁ : s₁.store.Remembers := first.remembers holds
    have unforged₁ : m.IsUnforged s₁.store := by
      rcases intake?_cases taken with ⟨rfl, -, rfl⟩ | ⟨draft, text, -, rfl⟩
      · exact unforged
      · exact fun sort n named => absurd (Option.some.inj named) (by simp [localId, CorrelationId.mint])
    have second : Advances s₁.store (s₁.log.take m now).store :=
      s₁.correlator.apply_advances holds₁.reserves unforged₁ now
    exact (first.trans second).trans (after.advances (second.remembers holds₁).sound)
  · exact tends.advances holds.sound

theorem unforged_of_ordinary (s : Session) {actions : List Action}
    (ordinary : ∀ a ∈ actions, a.isOrdinary = true) : s.Unforged actions := by
  induction actions generalizing s with
  | nil => trivial
  | cons a actions ih =>
      refine ⟨?_, ih _ fun a' mem => ordinary a' (List.mem_cons_of_mem _ mem)⟩
      cases a with
      | handle m now => exact Message.isUnforged_of_isOrdinary (ordinary _ List.mem_cons_self) s.store
      | _ => trivial

theorem remembers_start (c : Config) : (start c).store.Remembers :=
  Store.remembers_empty c.retiredIds

theorem advances_run (holds : s.store.Remembers) {actions : List Action}
    (unforged : s.Unforged actions) : Advances s.store (s.run actions).store := by
  induction actions generalizing s with
  | nil => exact .refl
  | cons a actions ih =>
      obtain ⟨first, rest⟩ := unforged
      have advances := perform_advances holds first
      exact advances.trans (ih (advances.remembers holds) rest)

end Session

end Chronicle
