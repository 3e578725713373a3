import Chronicle.Proofs.Timeline.Edits

/-!
# The life of an entry

An entry is pending, runs, and is finished.  This module says which status goes with which kind and when
there is an end time (`Entry.Coherent`), lists the changes that a live entry can undergo in place
(`Entry.Turn`), and says what is left alone by any number of them (`Entry.Follows`).

Status and kind are two fields that nothing in the data ties together.  `Turn.coherent` and
`Turn.follows` look at each change once; what comes after about stores and runs looks at the changes no
more.  A finished entry changes in one way only: an acknowledgement puts other words into an
instruction, and `reword` says which words those may be.
-/

namespace Chronicle

/-! ## Kinds -/

namespace Kind

theorem isToolUse_iff {kind : Kind} : kind.isToolUse = true ↔ ∃ use, kind = .toolUse use := by
  cases kind <;> simp [isToolUse]

theorem isThought_iff {kind : Kind} : kind.isThought = true ↔ ∃ body, kind = .thought body := by
  cases kind <;> simp [isThought]

theorem isInstruction_iff {kind : Kind} :
    kind.isInstruction = true ↔ ∃ author text confirmed, kind = .instruction author text confirmed := by
  cases kind <;> simp [isInstruction]

/-- The instruction has been shown and nobody has confirmed it. -/
def IsUnconfirmed (kind : Kind) : Prop := ∃ author text, kind = .instruction author text false

/-- The instruction has been acknowledged. -/
def IsConfirmed (kind : Kind) : Prop := ∃ author text, kind = .instruction author text true

/-- A command of the tool ended with another code than zero. -/
def HasFailed (kind : Kind) : Prop := ∃ use, kind = .toolUse use ∧ ∃ code ∈ use.exitCodes, code ≠ 0

/-- Which status an entry of a kind can have. -/
structure Suits (kind : Kind) (status : Status) : Prop where
  pending : status = .pending ↔ kind.IsUnconfirmed
  running : status = .running →
    (∃ use, kind = .toolUse use ∧ use.exitCodes = []) ∨ ∃ body, kind = .thought body
  failed : status = .failed ↔ status.isFinished = true ∧ kind.HasFailed

variable {kind : Kind}

theorem IsUnconfirmed.isInstruction (unconfirmed : kind.IsUnconfirmed) :
    kind.isInstruction = true := by
  obtain ⟨author, text, rfl⟩ := unconfirmed
  rfl

theorem suits_pending : kind.Suits .pending ↔ kind.IsUnconfirmed :=
  ⟨fun suits => suits.pending.mp rfl, fun unconfirmed =>
    ⟨⟨fun _ => unconfirmed, fun _ => rfl⟩, by simp, by simp [Status.isFinished]⟩⟩

theorem suits_running :
    kind.Suits .running ↔
      (∃ use, kind = .toolUse use ∧ use.exitCodes = []) ∨ ∃ body, kind = .thought body := by
  refine ⟨fun suits => suits.running rfl, fun runs => ⟨?_, fun _ => runs, by simp [Status.isFinished]⟩⟩
  rcases runs with ⟨use, rfl, -⟩ | ⟨body, rfl⟩ <;> simp [IsUnconfirmed]

theorem suits_completed : kind.Suits .completed ↔ ¬ kind.IsUnconfirmed ∧ ¬ kind.HasFailed := by
  constructor
  · intro suits
    have failed := suits.failed
    simp only [reduceCtorEq, Status.isFinished, true_and, false_iff] at failed
    exact ⟨fun unconfirmed => absurd (suits.pending.mpr unconfirmed) (by simp), failed⟩
  · rintro ⟨confirmed, unfailed⟩
    exact ⟨by simp [confirmed], by simp, by simp [unfailed]⟩

theorem suits_failed : kind.Suits .failed ↔ kind.HasFailed := by
  refine ⟨fun suits => (suits.failed.mp rfl).2, fun failed => ⟨?_, by simp, ?_⟩⟩
  · obtain ⟨use, rfl, -⟩ := failed
    simp [IsUnconfirmed]
  · simp [Status.isFinished, failed]

/-- What is neither run nor waited for is completed as soon as it is known. -/
theorem suits_atOnce (known : ¬ kind.IsUnconfirmed) (plain : kind.isToolUse = false) :
    kind.Suits .completed := by
  refine suits_completed.mpr ⟨known, ?_⟩
  rintro ⟨use, rfl, -⟩
  exact absurd plain (by simp [isToolUse])

end Kind

/-- How a status can change: a pending action is completed, a running one is completed or fails. -/
inductive Status.Leads : Status → Status → Prop where
  | stays (status : Status) : Leads status status
  | confirmed : Leads .pending .completed
  | completed : Leads .running .completed
  | failed : Leads .running .failed

theorem Status.Leads.trans {a b c : Status} (first : a.Leads b) (rest : b.Leads c) : a.Leads c := by
  cases first with
  | stays => exact rest
  | confirmed => cases rest; exact .confirmed
  | completed => cases rest; exact .completed
  | failed => cases rest; exact .failed

namespace Entry

variable {e e' e'' : Entry} {reword : Kind → Prop}

/-! ## Status, kind and times -/

/-- The status of an entry goes with its kind, and the entry has an end time once it is finished. -/
structure Coherent (e : Entry) : Prop where
  suits : e.kind.Suits e.status
  ended : e.ended.isSome = true ↔ e.status.isFinished = true

/-- A thought to which more may be added. -/
def isOpen (e : Entry) : Bool := e.isRunning && e.kind.isThought

theorem isRunning_iff : e.isRunning = true ↔ e.status = .running := by
  rw [isRunning, beq_iff_eq]

theorem isOpen_iff : e.isOpen = true ↔ e.status = .running ∧ ∃ body, e.kind = .thought body := by
  rw [isOpen, Bool.and_eq_true, isRunning_iff, Kind.isThought_iff]

theorem not_isOpen_of_isFinished (finished : e.status.isFinished = true) : e.isOpen = false := by
  rw [isOpen, isRunning]
  cases status : e.status <;> simp_all [Status.isFinished]

/-- An unconfirmed instruction waits. -/
theorem Coherent.isUnconfirmed_iff (holds : e.Coherent) :
    e.kind.IsUnconfirmed ↔ e.status = .pending := holds.suits.pending.symm

/-- An instruction that is finished has been confirmed. -/
theorem Coherent.isConfirmed (holds : e.Coherent) (instruction : e.kind.isInstruction = true)
    (finished : e.status.isFinished = true) : e.kind.IsConfirmed := by
  obtain ⟨author, text, confirmed, kind⟩ := Kind.isInstruction_iff.mp instruction
  cases confirmed with
  | true => exact ⟨author, text, kind⟩
  | false =>
      have pending := holds.isUnconfirmed_iff.mp ⟨author, text, kind⟩
      rw [pending] at finished
      exact absurd finished (by simp [Status.isFinished])

/-- The time of a finished entry stands still. -/
theorem Coherent.elapsed_eq (holds : e.Coherent) (finished : e.status.isFinished = true)
    (now now' : Instant) : e.elapsed now = e.elapsed now' := by
  obtain ⟨ended, at_end⟩ := Option.isSome_iff_exists.mp (holds.ended.mpr finished)
  rw [elapsed, elapsed, at_end, finished]
  rfl

/-! ## Changes in place -/

/-- The changes that an entry can undergo where it stands, but for the end of a thought.  An
instruction that is confirmed already is given only words that `reword` allows. -/
inductive Turn (reword : Kind → Prop) (e : Entry) : Entry → Prop where
  | record (running : e.isRunning = true) (tool : e.kind.isToolUse = true) (line : String)
      (bytes lines : Nat) (now : Instant) : Turn reword e (e.record line bytes lines now)
  | complete (running : e.isRunning = true) (tool : e.kind.isToolUse = true) (codes : List Int)
      (output : String) (summary : Option String) (now : Instant) :
      Turn reword e (e.complete codes output summary now)
  | think (opened : e.isOpen = true) (text : String) (now : Instant) :
      Turn reword e (e.think text now)
  | confirm (instruction : e.kind.isInstruction = true) (author text : String) (now : Instant)
      (allowed : e.kind.IsUnconfirmed ∨ reword (.instruction author text true)) :
      Turn reword e (e.confirm author text now)
  | flag (discarded : Bool) : Turn reword e { e with discarded }

theorem status_ofExitCodes_isFinished (codes : List Int) :
    (Status.ofExitCodes codes).isFinished = true := by
  rw [Status.ofExitCodes]
  split <;> rfl

/-- How a tool ends depends on its exit codes, and so does what it is called afterwards. -/
theorem suits_ofExitCodes (use : ToolUse) (codes : List Int) (exits : use.exitCodes = codes) :
    (Kind.toolUse use).Suits (Status.ofExitCodes codes) := by
  rw [Status.ofExitCodes]
  split
  · next some_failed =>
      obtain ⟨code, mem, nonzero⟩ := List.any_eq_true.mp some_failed
      exact Kind.suits_failed.mpr ⟨use, rfl, code, exits ▸ mem, by simpa using nonzero⟩
  · next none_failed =>
      refine Kind.suits_completed.mpr ⟨by simp [Kind.IsUnconfirmed], ?_⟩
      rintro ⟨use', same, code, mem, nonzero⟩
      obtain rfl := Kind.toolUse.inj same
      exact none_failed (List.any_eq_true.mpr ⟨code, exits ▸ mem, by simpa using nonzero⟩)

theorem confirm_kind (e : Entry) (author text : String) (now : Instant) :
    (e.confirm author text now).kind = .instruction author text true := by
  rw [confirm]
  simp only
  split <;> rfl

theorem confirm_status (e : Entry) (author text : String) (now : Instant) :
    (e.confirm author text now).status =
      if e.status.isFinished then e.status else .completed := by
  rw [confirm]
  simp only
  split <;> rfl

theorem confirm_of_isFinished (finished : e.status.isFinished = true) (author text : String)
    (now : Instant) :
    e.confirm author text now = { e with kind := .instruction author text true } := by
  rw [confirm]
  simp only [finished, if_true]

theorem confirm_of_not_isFinished (unfinished : e.status.isFinished = false) (author text : String)
    (now : Instant) :
    e.confirm author text now =
      { e with kind := .instruction author text true }.finish .completed now := by
  rw [confirm]
  simp only [unfinished, Bool.false_eq_true, if_false]

theorem suits_confirmed (author text : String) :
    (Kind.instruction author text true).Suits .completed :=
  Kind.suits_completed.mpr ⟨by simp [Kind.IsUnconfirmed], by simp [Kind.HasFailed]⟩

/-- Of the finished statuses an instruction can only have been completed. -/
theorem Coherent.status_eq_completed (holds : e.Coherent)
    (instruction : e.kind.isInstruction = true) (finished : e.status.isFinished = true) :
    e.status = .completed := by
  obtain ⟨author, text, confirmed, kind⟩ := Kind.isInstruction_iff.mp instruction
  have failed := holds.suits.failed
  cases status : e.status with
  | pending => simp [status, Status.isFinished] at finished
  | running => simp [status, Status.isFinished] at finished
  | completed => rfl
  | failed => simp [status, kind, Kind.HasFailed] at failed

/-- An instruction does not run. -/
theorem Coherent.status_eq_pending (holds : e.Coherent)
    (instruction : e.kind.isInstruction = true) (unfinished : e.status.isFinished = false) :
    e.status = .pending := by
  obtain ⟨author, text, confirmed, kind⟩ := Kind.isInstruction_iff.mp instruction
  have running := holds.suits.running
  cases status : e.status with
  | pending => rfl
  | running => simp [status, kind] at running
  | completed => simp [status, Status.isFinished] at unfinished
  | failed => simp [status, Status.isFinished] at unfinished

theorem Turn.coherent (turn : e.Turn reword e') (holds : e.Coherent) : e'.Coherent := by
  cases turn with
  | record running tool line bytes lines now =>
      obtain ⟨use, kind⟩ := Kind.isToolUse_iff.mp tool
      have status := isRunning_iff.mp running
      have suits := holds.suits
      rw [kind, status, Kind.suits_running] at suits
      refine ⟨?_, holds.ended⟩
      simp only [Entry.record, kind, status, Kind.suits_running]
      simpa [ToolUse.record] using suits
  | complete running tool codes output summary now =>
      obtain ⟨use, kind⟩ := Kind.isToolUse_iff.mp tool
      refine ⟨?_, ?_⟩
      · simp only [Entry.complete, kind, finish]
        exact suits_ofExitCodes _ codes rfl
      · simp [Entry.complete, finish, status_ofExitCodes_isFinished]
  | think opened text now =>
      obtain ⟨status, body, kind⟩ := isOpen_iff.mp opened
      refine ⟨?_, holds.ended⟩
      simp only [Entry.think, kind, status, Kind.suits_running]
      exact .inr ⟨_, rfl⟩
  | confirm instruction author text now allowed =>
      cases finished : e.status.isFinished with
      | true =>
          rw [confirm_of_isFinished finished]
          refine ⟨?_, holds.ended⟩
          simp only [holds.status_eq_completed instruction finished]
          exact suits_confirmed author text
      | false =>
          rw [confirm_of_not_isFinished finished]
          exact ⟨suits_confirmed author text, by simp [finish, Status.isFinished]⟩
  | flag discarded => exact ⟨holds.suits, holds.ended⟩

/-- No change of these opens or closes a thought. -/
theorem Turn.isOpen (turn : e.Turn reword e') : e'.isOpen = e.isOpen := by
  cases turn with
  | record running tool line bytes lines now =>
      obtain ⟨use, kind⟩ := Kind.isToolUse_iff.mp tool
      simp [Entry.isOpen, Entry.record, kind, Kind.isThought]
  | complete running tool codes output summary now =>
      obtain ⟨use, kind⟩ := Kind.isToolUse_iff.mp tool
      simp [Entry.isOpen, Entry.complete, finish, kind, Kind.isThought]
  | think opened text now =>
      obtain ⟨status, body, kind⟩ := isOpen_iff.mp opened
      simp [Entry.isOpen, isRunning, Entry.think, status, kind, Kind.isThought]
  | confirm instruction author text now allowed =>
      obtain ⟨author', text', confirmed, kind⟩ := Kind.isInstruction_iff.mp instruction
      simp [Entry.isOpen, confirm_kind, kind, Kind.isThought]
  | flag discarded => rfl

/-! ## The end of a thought -/

theorem closeBurst_of_isOpen (opened : e.isOpen = true) (now : Instant) :
    e.closeBurst now = e.finish .completed now := by
  rw [closeBurst, if_pos (Bool.and_eq_true_iff.mp opened).1]

/-- A thought that ends is completed. -/
theorem coherent_finish (opened : e.isOpen = true) (now : Instant) :
    (e.finish .completed now).Coherent := by
  obtain ⟨-, body, kind⟩ := isOpen_iff.mp opened
  refine ⟨Kind.suits_completed.mpr ⟨?_, ?_⟩, by simp [finish, Status.isFinished]⟩
  · simp [finish, kind, Kind.IsUnconfirmed]
  · simp [finish, kind, Kind.HasFailed]

theorem isOpen_finish (e : Entry) (now : Instant) : (e.finish .completed now).isOpen = false :=
  not_isOpen_of_isFinished rfl

theorem isOpen_think (opened : e.isOpen = true) (text : String) (now : Instant) :
    (e.think text now).isOpen = true := by
  have turn : e.Turn (fun _ => False) (e.think text now) := .think opened text now
  exact turn.isOpen.trans opened

/-! ## What stays -/

/-- What `e'` has in common with `e`, of which it is a later state. -/
structure Follows (reword : Kind → Prop) (e e' : Entry) : Prop where
  name : e'.name = e.name
  started : e'.started = e.started
  /-- It is still about an action of the same sort. -/
  sort : e'.kind.ctorIdx = e.kind.ctorIdx
  status : e.status.Leads e'.status
  /-- Once finished, it stays as it was finished. -/
  frozen : e.status.isFinished = true →
    e'.status = e.status ∧ e'.ended = e.ended ∧ e'.updated = e.updated
  /-- Once finished, it is about the same, or it is an instruction in other words. -/
  kind : e.status.isFinished = true →
    e'.kind = e.kind ∨ e.kind.IsConfirmed ∧ e'.kind.IsConfirmed ∧ reword e'.kind

theorem Follows.refl (e : Entry) : e.Follows reword e where
  name := rfl
  started := rfl
  sort := rfl
  status := .stays _
  frozen _ := ⟨rfl, rfl, rfl⟩
  kind _ := .inl rfl

theorem Follows.trans (first : e.Follows reword e') (rest : e'.Follows reword e'') :
    e.Follows reword e'' where
  name := rest.name.trans first.name
  started := rest.started.trans first.started
  sort := rest.sort.trans first.sort
  status := first.status.trans rest.status
  frozen finished := by
    obtain ⟨status, ended, updated⟩ := first.frozen finished
    obtain ⟨status', ended', updated'⟩ := rest.frozen (status ▸ finished)
    exact ⟨status'.trans status, ended'.trans ended, updated'.trans updated⟩
  kind finished := by
    have finished' : e'.status.isFinished = true := (first.frozen finished).1 ▸ finished
    rcases first.kind finished with same | ⟨confirmed, confirmed', allowed⟩
    · rw [← same]
      exact rest.kind finished'
    · rcases rest.kind finished' with same' | ⟨-, confirmed'', allowed'⟩
      · exact .inr ⟨confirmed, same' ▸ confirmed', same' ▸ allowed⟩
      · exact .inr ⟨confirmed, confirmed'', allowed'⟩

theorem Follows.mono {reword' : Kind → Prop} (follows : e.Follows reword e')
    (more : ∀ kind, reword kind → reword' kind) : e.Follows reword' e' :=
  { follows with
    kind := fun finished =>
      (follows.kind finished).imp_right fun ⟨confirmed, confirmed', allowed⟩ =>
        ⟨confirmed, confirmed', more _ allowed⟩ }

/-- A change of an entry that has not been finished is bound by nothing but its name, its start and
its sort. -/
theorem Follows.of_unfinished (unfinished : e.status.isFinished = false) (name : e'.name = e.name)
    (started : e'.started = e.started) (sort : e'.kind.ctorIdx = e.kind.ctorIdx)
    (status : e.status.Leads e'.status) : e.Follows reword e' where
  name := name
  started := started
  sort := sort
  status := status
  frozen finished := absurd (unfinished.symm.trans finished) Bool.false_ne_true
  kind finished := absurd (unfinished.symm.trans finished) Bool.false_ne_true

theorem isFinished_of_isRunning (running : e.isRunning = true) : e.status.isFinished = false := by
  rw [isRunning_iff.mp running]
  rfl

theorem leads_ofExitCodes (codes : List Int) : Status.Leads .running (.ofExitCodes codes) := by
  rw [Status.ofExitCodes]
  split
  · exact .failed
  · exact .completed

theorem Turn.follows (turn : e.Turn reword e') (holds : e.Coherent) : e.Follows reword e' := by
  cases turn with
  | record running tool line bytes lines now =>
      obtain ⟨use, kind⟩ := Kind.isToolUse_iff.mp tool
      refine .of_unfinished (isFinished_of_isRunning running) rfl rfl ?_ (.stays _)
      simp only [Entry.record, kind]
      rfl
  | complete running tool codes output summary now =>
      obtain ⟨use, kind⟩ := Kind.isToolUse_iff.mp tool
      refine .of_unfinished (isFinished_of_isRunning running) rfl rfl ?_ ?_
      · simp only [Entry.complete, finish, kind]
        rfl
      · rw [isRunning_iff.mp running]
        exact leads_ofExitCodes codes
  | think opened text now =>
      obtain ⟨status, body, kind⟩ := isOpen_iff.mp opened
      refine .of_unfinished (isFinished_of_isRunning (isRunning_iff.mpr status)) rfl rfl ?_ (.stays _)
      simp only [Entry.think, kind]
      rfl
  | confirm instruction author text now allowed =>
      obtain ⟨author', text', confirmed, kind⟩ := Kind.isInstruction_iff.mp instruction
      cases finished : e.status.isFinished with
      | true =>
          have was := holds.isConfirmed instruction finished
          rw [confirm_of_isFinished finished]
          refine ⟨rfl, rfl, by rw [kind]; rfl, .stays _, fun _ => ⟨rfl, rfl, rfl⟩, fun _ => ?_⟩
          refine .inr ⟨was, ⟨author, text, rfl⟩, allowed.resolve_left fun unconfirmed => ?_⟩
          rw [holds.isUnconfirmed_iff.mp unconfirmed] at finished
          exact absurd finished (by simp [Status.isFinished])
      | false =>
          rw [confirm_of_not_isFinished finished]
          refine .of_unfinished finished rfl rfl (by rw [kind]; rfl) ?_
          rw [holds.status_eq_pending instruction finished]
          exact .confirmed
  | flag discarded => exact ⟨rfl, rfl, rfl, .stays _, fun _ => ⟨rfl, rfl, rfl⟩, fun _ => .inl rfl⟩

theorem follows_finish (running : e.isRunning = true) (now : Instant) :
    e.Follows reword (e.finish .completed now) := by
  refine .of_unfinished (isFinished_of_isRunning running) rfl rfl rfl ?_
  rw [isRunning_iff.mp running]
  exact .completed

theorem follows_closeBurst (e : Entry) (now : Instant) : e.Follows reword (e.closeBurst now) := by
  rw [closeBurst]
  split
  · next running => exact follows_finish running now
  · exact .refl e

/-- The last piece of a thought is added to it, and then it ends. -/
theorem Coherent.follows_thinkLast (holds : e.Coherent) (opened : e.isOpen = true) (text : String)
    (now : Instant) : e.Follows reword ((Entry.thinkLastEdit text now).run e) := by
  have thinks : e.Follows reword (e.think text now) := (Turn.think opened text now).follows holds
  have running := (Bool.and_eq_true_iff.mp (isOpen_think opened text now)).1
  exact thinks.trans (follows_finish running now)

end Entry

end Chronicle
