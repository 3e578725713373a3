import Chronicle.Proofs.Screen.Content
import Chronicle.Proofs.Session.Frames
import Chronicle.Proofs.Session.Refusal
import Chronicle.Proofs.Session.Submission

/-!
# When a message asks for the screen to be drawn again

A session that answers a message with `false` says that nothing has to be drawn again.  Almost always it
has not changed at all; `handle_still` lists the two exceptions.  A refused message is counted, and the
count of refused messages is on the status line; a blank draft is thrown away when it is submitted, and
the draft is on the card.

`flagSound_iff` says that these are all: the answer can be trusted (`FlagSound`) exactly when the message
is not refused, or only for coming too late, and is not the submission of a draft of nothing but blanks.
-/

namespace Chronicle

/-- The count of refused messages goes up unless the message came too late. -/
theorem Counters.malformed_refuse (c : Counters) (e : IngestionError) :
    (c.refuse e).malformed = c.malformed ↔ ∃ k, e = .staleHandle k := by
  cases e <;> simp [refuse]

namespace Session

variable {s : Session} {m : Message} {now : Instant}

/-- If the answer is that nothing has to be drawn again, then the same is drawn after the message as
before it, whenever that is. -/
def FlagSound (s : Session) (m : Message) (now : Instant) : Prop :=
  (s.handle m now).1 = false →
    ∀ t, ((s.handle m now).2.snapshot t).content = (s.snapshot t).content

/-! ## Commands -/

theorem moveForkUp_still (still : s.moveForkUp.1 = false) : s.moveForkUp.2 = s := by
  unfold moveForkUp Fork.moveUp at still ⊢
  split at still
  · next empty => rw [if_pos empty]; rfl
  · exact absurd still (by simp [applyFork])

theorem moveForkDown_still (still : s.moveForkDown.1 = false) : s.moveForkDown.2 = s := by
  unfold moveForkDown Fork.moveDown at still ⊢
  split at still
  · next empty => rw [if_pos empty]; rfl
  · split at still <;> exact absurd still (by simp [applyFork])

theorem forkAt_still {position : Nat} (still : (s.forkAt position).1 = false) :
    (s.forkAt position).2 = s := by
  unfold forkAt Fork.moveTo at still ⊢
  split at still
  · next empty => rw [if_pos empty]; rfl
  · exact absurd still (by simp [applyFork])

theorem forkAtRow_still {row : Nat} (still : (s.forkAtRow row now).1 = false) :
    (s.forkAtRow row now).2 = s := by
  rw [forkAtRow] at still ⊢
  cases at_row : s.positionOnRow? row now with
  | none => rfl
  | some position =>
      rw [at_row] at still
      exact forkAt_still still

theorem stopHero_still (still : s.stopHero.1 = false) : s.stopHero.2 = s := by
  rcases stopHero_cases s with same | ⟨tokens, id, -, same⟩
  · rw [same]
  · rw [same] at still
    exact absurd still (by simp)

theorem jumpToOption_still {index : Option Nat} (still : (s.jumpToOption index).1 = false) :
    (s.jumpToOption index).2 = s := by
  cases index with
  | none => rfl
  | some index => exact absurd still (by simp [jumpToOption])

theorem reconnect_still (still : s.reconnect.1 = false) : s.reconnect.2 = s := by
  rw [reconnect] at still ⊢
  split
  · rfl
  · next lost => exact absurd still (by simp [lost])

/-- A blank draft is not a search. -/
theorem searchOf?_of_allBlank {draft : String} (blank : Text.allBlank draft = true) :
    searchOf? draft = none := by
  have nothing : Text.dropBlank draft.toList = [] :=
    List.dropWhile_eq_nil_iff.mpr (List.all_eq_true.mp blank)
  rw [searchOf?, nothing]
  rfl

/-- A blank draft is thrown away, and nothing is said. -/
theorem handle_of_allBlank (blank : Text.allBlank s.draft = true) :
    s.handle (.command .submitDraft) now = (false, { s with draft := "" }) := by
  rw [handle, applyCommand, submitDraft]
  simp only [searchOf?_of_allBlank blank]
  rcases submitInstruction_cases { s with draft := "" } s.draft now with ⟨-, same⟩ | ⟨full, -⟩
  · rw [same]
    rfl
  · exact absurd (blank.symm.trans full) (by simp)

theorem submitDraft_still (s : Session) (now : Instant) (still : (s.submitDraft now).1 = false) :
    Text.allBlank s.draft = true := by
  rw [submitDraft] at still
  simp only at still
  split at still
  · exact absurd still (by simp)
  · rcases submitInstruction_cases { s with draft := "" } s.draft now with ⟨blank, -⟩ | ⟨-, same⟩
    · exact blank
    · rw [same, submitText_eq] at still
      exact absurd still (by simp)

theorem applyCommand_still {c : Command} (still : (s.applyCommand c now).1 = false) :
    (s.applyCommand c now).2 = s ∨
      c = .submitDraft ∧ Text.allBlank s.draft = true := by
  cases c with
  | moveForkUp => exact .inl (moveForkUp_still still)
  | moveForkDown => exact .inl (moveForkDown_still still)
  | forkAt position => exact .inl (forkAt_still still)
  | forkAtRow row => exact .inl (forkAtRow_still still)
  | stopHero => exact .inl (stopHero_still still)
  | searchNext => exact .inl (jumpToOption_still still)
  | searchPrevious => exact .inl (jumpToOption_still still)
  | submitDraft => exact .inr ⟨rfl, s.submitDraft_still now still⟩
  | _ => exact absurd still (by simp [applyCommand])

/-! ## Messages -/

theorem isIngested_of_refused {c : Correlator} {e : IngestionError}
    (refused : (c.apply s.store m now).result = .error e) : m.isIngested = true := by
  cases m with
  | connectionError reason => exact absurd refused (by simp [Correlator.apply])
  | connectionRestored => exact absurd refused (by simp [Correlator.apply])
  | command c => exact absurd refused (by simp [Correlator.apply])
  | _ => rfl

theorem handle_of_refused {e : IngestionError}
    (refused : (s.correlator.apply s.store m now).result = .error e) :
    s.handle m now = (false, { s with counters := s.counters.refuse e }) := by
  rw [handle_eq_ingest s now (isIngested_of_refused refused)]
  exact ingest_of_error s refused

theorem ingest_still (ingested : m.isIngested = true) (still : (s.ingest m now).1 = false) :
    ∃ e, (s.correlator.apply s.store m now).result = .error e := by
  cases answer : (s.correlator.apply s.store m now).result with
  | error e => exact ⟨e, rfl⟩
  | ok o =>
      have taken := (ingest_of_ok s ingested answer).1
      exact absurd (taken.symm.trans still) (by simp)

/-- What is behind the answer that nothing has to be drawn again. -/
theorem handle_still (still : (s.handle m now).1 = false) :
    (s.handle m now).2 = s ∨
    (∃ e, (s.correlator.apply s.store m now).result = .error e) ∨
    (m = .command .submitDraft ∧ Text.allBlank s.draft = true) := by
  cases ingested : m.isIngested with
  | true =>
      rw [handle_eq_ingest s now ingested] at still
      exact .inr (.inl (ingest_still ingested still))
  | false =>
      cases m with
      | connectionError reason => exact absurd still (by simp [handle])
      | connectionRestored => exact .inl (reconnect_still still)
      | command c =>
          rcases applyCommand_still still with same | ⟨rfl, blank⟩
          · exact .inl same
          · exact .inr (.inr ⟨rfl, blank⟩)
      | _ => exact absurd ingested (by simp [Message.isIngested])

theorem flagSound_iff (s : Session) (m : Message) (now : Instant) :
    s.FlagSound m now ↔
      (∀ e, (s.correlator.apply s.store m now).result = .error e → ∃ k, e = .staleHandle k) ∧
      (m = .command .submitDraft → Text.allBlank s.draft = true → s.draft = "") := by
  constructor
  · intro sound
    -- in both cases the answer is `false`, so that the content is the same at any time, such as 0
    refine ⟨fun e refused => ?_, ?_⟩
    · have same := sound (by rw [handle_of_refused refused]) 0
      rw [handle_of_refused refused] at same
      exact (Counters.malformed_refuse s.counters e).mp (congrArg Content.dropped same)
    · rintro rfl blank
      have same := sound (by rw [handle_of_allBlank blank]) 0
      rw [handle_of_allBlank blank] at same
      exact (congrArg Content.draft same).symm
  · rintro ⟨only_stale, nothing⟩ still t
    rcases handle_still still with same | ⟨e, refused⟩ | ⟨rfl, blank⟩
    · rw [same]
    · obtain ⟨k, rfl⟩ := only_stale e refused
      rw [handle_of_refused refused]
      rfl
    · have same : { s with draft := "" } = s := by rw [← nothing rfl blank]
      rw [handle_of_allBlank blank, same]

/-- A draft of one blank is thrown away, and not a word is said. -/
theorem not_flagSound_blankDraft :
    ¬ ((start .standard).handle (.command (.draftChar ' ')) 0).2.FlagSound
      (.command .submitDraft) 0 := by
  intro sound
  have draft := congrArg Content.draft (sound rfl 0)
  exact absurd draft (by decide)

end Session

end Chronicle
