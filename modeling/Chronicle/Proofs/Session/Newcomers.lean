import Chronicle.Proofs.Session.Minting

/-!
# Where entries come from

New entries come in by one way: an action takes a message in, and the message brings one entry, which gets the
next number, or none (`Correlator.apply_brings`).  So an entry that an action has brought tells which
message it is from, and what that message named (`perform_newcomer`).
-/

namespace Chronicle

/-! ## What a message brings -/

/-- Who names no minted id starts an entry under one only by naming none. -/
theorem Message.Names.of_isMinted {m : Message} {s : Store} {id : CorrelationId} {status : Status}
    (names : m.Names s id status) (ordinary : m.isOrdinary = true) (minted : id.isMinted = true) :
    m.id? = none ∧ (∃ sort, id = .mint sort s.nextSequence) ∧ status = .completed := by
  cases names with
  | given named unseen =>
      have given := isMinted_of_isOrdinary ordinary named
      exact absurd (minted.symm.trans given) (by simp)
  | minted sort anonymous => exact ⟨anonymous, ⟨sort, rfl⟩, rfl⟩

namespace Ingested

/-- What a message brings to a store: an entry with the next number, or nothing. -/
inductive Brings (s : Store) (m : Message) (r : Ingested) : Prop where
  | one {k : Key} {e : Entry} (result : r.result = .ok (.appended k))
      (found : r.store.get? k = some e) (names : m.Names s e.id e.status)
      (number : e.sequence = s.nextSequence) (next : r.store.nextSequence = s.nextSequence + 1)
  | none (result : ∀ k, r.result ≠ .ok (.appended k)) (next : r.store.nextSequence = s.nextSequence)

/-- The minted id of the entry that has been added, if it has one. -/
def minted? (r : Ingested) : Option CorrelationId :=
  match r.result with
  | .ok (.appended k) => ((r.store.get? k).map (·.id)).filter (·.isMinted)
  | _ => none

variable {s : Store} {m : Message} {r : Ingested} {k : Key} {e : Entry} {id : CorrelationId}

theorem minted?_eq (result : r.result = .ok (.appended k)) (found : r.store.get? k = some e) :
    r.minted? = if e.id.isMinted then some e.id else none := by
  simp only [minted?, result, found, Option.map_some, Option.filter_some]

/-- An id is minted for a message that names none, and has the next number. -/
theorem Brings.of_minted? (brings : r.Brings s m) (ordinary : m.isOrdinary = true)
    (minted : r.minted? = some id) :
    m.id? = .none ∧ (∃ sort, id = .mint sort s.nextSequence) ∧
      r.store.nextSequence = s.nextSequence + 1 := by
  cases brings with
  | one result found names number next =>
      rw [minted?_eq result found] at minted
      split at minted
      · next is_minted =>
          obtain rfl := Option.some.inj minted
          obtain ⟨anonymous, mints, -⟩ := names.of_isMinted ordinary is_minted
          exact ⟨anonymous, mints, next⟩
      · exact absurd minted (by simp)
  | none result next =>
      have nothing : r.minted? = .none := by
        rw [minted?]
        split
        · next k is => exact absurd is (result k)
        · rfl
      exact absurd (nothing.symm.trans minted) (by simp)

/-- An entry with a number that had not been given is the one that has been added. -/
theorem Brings.newcomer (brings : r.Brings s m) (sound : r.store.Sound) (found : r.store.get? k = some e)
    (new : s.nextSequence ≤ e.sequence) :
    r.result = .ok (.appended k) ∧ m.Names s e.id e.status ∧ e.sequence = s.nextSequence := by
  have lt := sound.sequence_lt_next found
  cases brings with
  | one result found' names number next =>
      obtain rfl := sound.key_of_sequence found' found (by omega)
      obtain rfl := Option.some.inj (found'.symm.trans found)
      exact ⟨result, names, number⟩
  | none result next => omega

end Ingested

theorem Correlator.apply_brings (c : Correlator) {s : Store} (sound : s.Sound) (m : Message)
    (now : Instant) : (c.apply s m now).Brings s m := by
  have deed := c.apply_deed s m now
  generalize c.apply s m now = r at deed
  cases deed with
  | refused e stale duplicate => exact .none (fun k is => absurd is (by simp [refuse])) rfl
  | ignored other => exact .none (fun k is => absurd is (by simp)) rfl
  | started id kind status suits names starts =>
      have next := (c.closeThoughts_frame s now).2.1
      have found := (c.sound_closeThoughts sound now).get?_append id kind status now
        ((c.closeThoughts s now).2.append id kind status now).1
      rw [if_pos rfl] at found
      refine .one rfl found names next ?_
      show ((c.closeThoughts s now).2.append id kind status now).2.nextSequence = _
      rw [Store.nextSequence_append, next]
  | recorded found running tool p written => exact .none (fun k is => absurd is (by simp)) rfl
  | ended found running tool id codes output summary is named =>
      exact .none (fun k is => absurd is (by simp)) rfl
  | thought found opened text => exact .none (fun k is => absurd is (by simp)) rfl
  | thoughtLast found opened text => exact .none (fun k is => absurd is (by simp)) rfl
  | confirmed found instruction author text allowed =>
      exact .none (fun k is => absurd is (by simp)) rfl

namespace Session

open Log (Changes Tends)

variable {s : Session} {a : Action} {actions : List Action} {k : Key} {e : Entry} {id : CorrelationId}

theorem isOrdinary_of_intake? {s₁ : Session} {m : Message} {now : Instant}
    (ordinary : a.isOrdinary = true) (taken : s.intake? a = some (s₁, m, now)) :
    m.isOrdinary = true := by
  rcases intake?_cases taken with ⟨rfl, -, -⟩ | ⟨draft, text, -, rfl⟩
  · exact ordinary
  · rfl

/-- The session that takes a message in has given no number yet, and after it none is given. -/
theorem course_of_intake? (holds : s.log.Coherent) {s₁ : Session} {m : Message} {now : Instant}
    (taken : s.intake? a = some (s₁, m, now)) :
    s₁.log.Coherent ∧ s₁.store.nextSequence = s.store.nextSequence ∧
      Tends (s₁.log.take m now) (s.perform a).log := by
  rcases perform_course s a with ⟨s₂, m', now', taken', before, after⟩ | ⟨other, -⟩
  · obtain ⟨rfl, same⟩ := Prod.mk.inj (Option.some.inj (taken.symm.trans taken'))
    obtain ⟨rfl, rfl⟩ := Prod.mk.inj same
    exact ⟨before.coherent holds, nextSequence_tends before holds.sound, after⟩
  · exact absurd (taken.symm.trans other) (by simp)

/-- An entry that was not there before has been added by the message that the action takes in, and is a later
state of what that message added. -/
theorem perform_newcomer (holds : s.log.Coherent) (found : (s.perform a).store.get? k = some e)
    (new : s.store.nextSequence ≤ e.sequence) :
    e.sequence = s.store.nextSequence ∧ ∃ s₁ m now e₁, s.intake? a = some (s₁, m, now) ∧
      s₁.store.nextSequence = s.store.nextSequence ∧
      (s₁.correlator.apply s₁.store m now).result = .ok (.appended k) ∧
      (s₁.correlator.apply s₁.store m now).store.get? k = some e₁ ∧
      m.Names s₁.store e₁.id e₁.status ∧ e₁.Follows (fun _ => False) e := by
  have lt := ((perform_changes s a).coherent holds).sound.sequence_lt_next found
  rcases perform_course s a with ⟨s₁, m, now, taken, -⟩ | ⟨-, tends⟩
  · obtain ⟨holds₁, next₁, after⟩ := course_of_intake? holds taken
    have holds₂ := holds₁.take m now
    have changes : Changes (fun _ _ => False) (s₁.log.take m now) (s.perform a).log := after.changes
    have old : e.sequence < (s₁.log.take m now).store.nextSequence := by
      rw [← nextSequence_tends after holds₂.sound]
      exact lt
    obtain ⟨e₁, found₁, follows⟩ := (changes.continues holds₂).entries k e found old
    have number : e.sequence = e₁.sequence := congrArg Prod.snd follows.name
    have new₁ : s₁.store.nextSequence ≤ e₁.sequence := by rw [next₁, ← number]; exact new
    obtain ⟨result, names, number₁⟩ :=
      (s₁.correlator.apply_brings holds₁.sound m now).newcomer holds₂.sound found₁ new₁
    exact ⟨number.trans (number₁.trans next₁), s₁, m, now, e₁, taken, next₁, result, found₁, names,
      follows⟩
  · have next : (s.perform a).log.store.nextSequence = s.store.nextSequence :=
      nextSequence_tends tends holds.sound
    exact absurd new (Nat.not_le_of_lt (next ▸ lt))

end Session

end Chronicle
