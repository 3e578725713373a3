import Chronicle.Proofs.Text
import Chronicle.Session.Handling
import Mathlib.Data.List.Nodup
import Mathlib.Data.List.Perm.Subperm

/-!
# Submitting an instruction

An instruction gets the first number whose id has not been seen.  The search for it is bounded, and the
bound is enough: among one more numbers than ids are known, one is unseen (`hasSeen_nextNumber`).  So an
instruction is never refused as a duplicate (`submitText_eq`), and submitting fails for one reason only,
that the text is blank (`submitInstruction_cases`).
-/

namespace Chronicle

theorem Store.hasSeen_iff {s : Store} {id : CorrelationId} :
    s.hasSeen id = true ↔ id ∈ s.ids.map (·.1) := by
  rw [hasSeen, List.lookup_isSome_iff, List.mem_map]
  exact exists_congr fun ik => and_congr_right fun _ => by rw [beq_iff_eq, eq_comm]

namespace Session

/-! ## A number that is free -/

theorem localId_injective : Function.Injective localId := by
  intro m n same
  have digits := (String.append_right_inj _).mp (CorrelationId.producer.inj same)
  exact Text.toString_injective digits

/-- A search that ends at a seen id has seen all ids on its way. -/
theorem hasSeen_of_unseenFrom {s : Store} {fuel n : Nat}
    (seen : s.hasSeen (localId (unseenFrom s fuel n)) = true) :
    ∀ m, n ≤ m → m < n + fuel → s.hasSeen (localId m) = true := by
  induction fuel generalizing n with
  | zero =>
      intro m from_n below
      omega
  | succ fuel ih =>
      intro m from_n below
      rw [unseenFrom] at seen
      split at seen
      · next first =>
          rcases Nat.eq_or_lt_of_le from_n with rfl | later
          · exact first
          · exact ih seen m later (by omega)
      · next unseen => exact absurd seen unseen

/-- The number of the next instruction belongs to an id that has not been seen. -/
theorem hasSeen_nextNumber (s : Session) : s.store.hasSeen (localId s.nextNumber) = false := by
  refine Bool.eq_false_iff.mpr fun seen => ?_
  have nodup : ((List.range' s.nextLocal (s.store.ids.length + 1)).map localId).Nodup :=
    List.Nodup.map localId_injective List.nodup_range'
  have subset : (List.range' s.nextLocal (s.store.ids.length + 1)).map localId ⊆
      s.store.ids.map (·.1) := by
    intro id mem
    obtain ⟨m, in_range, rfl⟩ := List.mem_map.mp mem
    obtain ⟨from_n, below⟩ := List.mem_range'_1.mp in_range
    exact Store.hasSeen_iff.mp (hasSeen_of_unseenFrom seen m from_n below)
  -- the search went through one more ids than there are in the table, all different and all in it
  have length_le := (nodup.subperm subset).length_le
  rw [List.length_map, List.length_map, List.length_range'] at length_le
  omega

/-! ## Submitting -/

/-- A session in which the number of the next instruction is taken. -/
def numbered (s : Session) : Session := { s with nextLocal := s.nextNumber + 1 }

/-- The message that an instruction becomes. -/
def submission (s : Session) (text : String) : Message :=
  .inputSubmitted (localId s.nextNumber) s.author text

/-- The message is taken in as a new entry. -/
theorem apply_submission (s : Session) (text : String) (now : Instant) :
    ∃ k, (s.correlator.apply s.store (s.submission text) now).result = .ok (.appended k) := by
  have unseen := s.hasSeen_nextNumber
  rw [submission, Correlator.apply, Correlator.startNew, unseen]
  exact ⟨_, rfl⟩

theorem ingest_submission (s : Session) (text : String) (now : Instant) :
    (s.numbered.ingest (s.submission text) now).1 = true := by
  obtain ⟨k, taken⟩ := s.apply_submission text now
  have same : s.numbered.correlator.apply s.numbered.store (s.submission text) now =
      s.correlator.apply s.store (s.submission text) now := rfl
  rw [ingest]
  simp only [same, taken]
  rfl

/-- The session after an instruction: its entry is there, the window is at the end, and a request to
carry it out waits. -/
theorem submitText_eq (s : Session) (text : String) (now : Instant) :
    s.submitText text now =
      (some (localId s.resolveFork.nextNumber),
        { (s.resolveFork.numbered.ingest (s.resolveFork.submission text) now).2.moveWindow
            Viewport.scrollToEnd with
          outbound := (s.resolveFork.numbered.ingest (s.resolveFork.submission text) now).2.outbound ++
            [.submitInstruction (localId s.resolveFork.nextNumber) text s.forkAfter?] }) := by
  have taken := s.resolveFork.ingest_submission text now
  rw [submitText]
  simp only
  split
  · next same =>
      have refused := congrArg Prod.fst same
      exact absurd (taken.symm.trans refused) (by simp)
  · next same =>
      have left := congrArg Prod.snd same
      rw [numbered, submission, left]
      rfl

/-- An instruction is submitted unless it is blank, and a blank one changes nothing. -/
theorem submitInstruction_cases (s : Session) (text : String) (now : Instant) :
    Text.allBlank text = true ∧ s.submitInstruction text now = (none, s) ∨
    Text.allBlank text = false ∧
      s.submitInstruction text now = s.submitText (Text.trim text) now := by
  rw [submitInstruction]
  simp only [Text.isEmpty_trim]
  cases Text.allBlank text with
  | true => exact .inl ⟨rfl, rfl⟩
  | false => exact .inr ⟨rfl, rfl⟩

end Session

end Chronicle
