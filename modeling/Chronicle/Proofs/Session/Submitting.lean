import Chronicle.Proofs.Session.Coherence
import Chronicle.Proofs.Session.Desk
import Chronicle.Proofs.Session.Discarding
import Chronicle.Proofs.Session.Keys
import Chronicle.Proofs.Session.Newcomers
import Chronicle.Proofs.Timeline.Seen

/-!
# What submitting an instruction comes to

Submitting leaves the fork, looks for a number that is free, takes the instruction in like any message,
goes to the end and leaves a request.  `submits_run` says what all of that comes to (`Submitted`).

Two things could come between.  The history cap is enforced once the instruction is there, but it takes
out finished entries alone, and the instruction waits (`getLast?_submitInstruction`).  And the fork is
gone by the time the request is written; the number that it names was read before, and the entries up to
that number are those that the fork had kept (`discarded_iff_of_forkAfter?`).

An id is new if the store has not seen it.  A store may forget ids, so this does not say that no entry ever
had it; but no submission before had it, and no entry at all while nothing has been forgotten (`Unheard`).
-/

namespace Chronicle

namespace Session

open Log (Tends)

variable {s : Session} {id : CorrelationId}

/-- What a session `s'` is once an instruction has been submitted to `s`. -/
structure Submitted (s : Session) (author text : String) (id : CorrelationId) (s' : Session) : Prop where
  unseen : s.store.hasSeen id = false
  /-- Its number is the first whose id has not been seen, and the search for the next goes on after it. -/
  number : ∃ n, id = localId n ∧ s.nextLocal ≤ n ∧ s'.nextLocal = n + 1 ∧
    ∀ m, s.nextLocal ≤ m → m < n → s.store.hasSeen (localId m) = true
  /-- The last entry is new: it has a number that was given to none before. -/
  last : ∃ k e, s'.store.entries.getLast? = some (k, e) ∧ e.id = id ∧
    e.sequence = s.store.nextSequence ∧ e.status = .pending ∧ e.kind = .instruction author text false
  live : s'.fork = .live
  kept : ∀ ke ∈ s'.store.entries, ke.2.discarded = false
  follow : s'.viewport.follow = true
  at_end : s'.viewport.offset = s'.viewport.maxOffset s'.size
  /-- One request is left, and it names the last entry that a fork had kept. -/
  request : ∃ after, s'.outbound = s.outbound ++ [.submitInstruction id text after] ∧
    (s.fork = .live → after = none) ∧
    (s.fork ≠ .live → ∃ n, after = some n ∧
      ∀ ke ∈ s.store.entries, ke.2.discarded = false ↔ ke.2.sequence ≤ n)

/-! ## The number -/

/-- The ids on the way to the number have been seen. -/
theorem hasSeen_of_lt_unseenFrom (s : Store) (fuel n : Nat) :
    ∀ m, n ≤ m → m < unseenFrom s fuel n → s.hasSeen (localId m) = true := by
  induction fuel generalizing n with
  | zero =>
      intro m from_n below
      exact absurd from_n (Nat.not_le_of_lt below)
  | succ fuel ih =>
      intro m from_n below
      rw [unseenFrom] at below
      split at below
      · next first =>
          rcases Nat.eq_or_lt_of_le from_n with rfl | later
          · exact first
          · exact ih (n + 1) m later below
      · exact absurd from_n (Nat.not_le_of_lt below)

/-- Leaving a fork has no bearing on the ids. -/
theorem ids_resolveFork (s : Session) : s.resolveFork.store.ids = s.store.ids := by
  rw [resolveFork]
  split
  · obtain ⟨slots, same⟩ := Fork.live.partition_frame s.store
    show (Fork.live.partition s.store).ids = _
    rw [same]
  · rfl

theorem hasSeen_resolveFork (s : Session) (id : CorrelationId) :
    s.resolveFork.store.hasSeen id = s.store.hasSeen id := by
  rw [Store.hasSeen, ids_resolveFork, Store.hasSeen]

/-! ## The request -/

/-- The entries that a fork keeps are those up to the number of the one that its card is below. -/
theorem IsPartitioned.discarded_iff (holds : s.IsPartitioned) {i : Nat} (below : s.fork = .below i) :
    ∃ n, s.forkAfter? = some n ∧
      ∀ ke ∈ s.store.entries, ke.2.discarded = false ↔ ke.2.sequence ≤ n := by
  have inside : i < s.store.entries.length := by
    rw [holds.sound.length_entries]
    exact holds.inside i below
  have at_i : s.store.entries[i]? = some s.store.entries[i] := List.getElem?_eq_getElem inside
  refine ⟨s.store.entries[i].2.sequence, ?_, ?_⟩
  · rw [forkAfter?, below]
    show (s.store.entryAt? i).map _ = _
    rw [holds.sound.entryAt?_eq, at_i]
    rfl
  · intro ke mem
    obtain ⟨p, at_p⟩ := List.getElem?_of_mem mem
    have flag : ke.2.discarded = s.fork.discards p :=
      holds.discarded_eq (by rw [holds.sound.entryAt?_eq, at_p]; rfl)
    rw [flag, below, Fork.discards, decide_eq_false_iff_not,
      ← holds.sound.sequence_lt_iff at_i at_p, Nat.not_lt]
    exact Iff.rfl

/-! ## The entry -/

/-- The message is taken in as an entry that waits, under the next number. -/
theorem entry_submission (sound : s.store.Sound) (text : String) (now : Instant) :
    ∃ k e, (s.log.take (s.submission text) now).store.get? k = some e ∧
      e.id = localId s.nextNumber ∧ e.sequence = s.store.nextSequence ∧ e.status = .pending ∧
      e.kind = .instruction s.author text false ∧
      (s.log.take (s.submission text) now).store.nextSequence = s.store.nextSequence + 1 := by
  let kind : Kind := .instruction s.author text false
  let closed : Store := (s.correlator.closeThoughts s.store now).2
  have next : closed.nextSequence = s.store.nextSequence :=
    (s.correlator.closeThoughts_frame s.store now).2.1
  have sound' : closed.Sound := s.correlator.sound_closeThoughts sound now
  have taken : (s.log.take (s.submission text) now).store =
      (closed.append (localId s.nextNumber) kind .pending now).2 := by
    have unseen := s.hasSeen_nextNumber
    rw [Log.take, log, submission, Correlator.apply, Correlator.startNew, unseen]
    rfl
  have found := sound'.get?_append (localId s.nextNumber) kind .pending now
    (closed.append (localId s.nextNumber) kind .pending now).1
  rw [if_pos rfl] at found
  rw [taken]
  refine ⟨_, closed.fresh (localId s.nextNumber) kind .pending now, found, rfl, next, rfl, rfl, ?_⟩
  rw [Store.nextSequence_append, next]

theorem store_log (s : Session) : s.log.store = s.store := rfl

theorem log_numbered (s : Session) : s.numbered.log = s.log := rfl

theorem perform_submitInstruction (s : Session) (text : String) (now : Instant) :
    s.perform (.submitInstruction text now) = (s.submitInstruction text now).2 := rfl

theorem run_submitInstruction (s : Session) (text : String) (now : Instant) :
    s.run [.submitInstruction text now] = (s.submitInstruction text now).2 := rfl

/-- The entry that an instruction becomes is the last one in the end: it waits, so the history cap leaves
it. -/
theorem getLast?_submitInstruction (holds : s.log.Coherent) (text : String) (now : Instant)
    (full : Text.allBlank text = false) :
    ∃ k e, (s.submitInstruction text now).2.store.entries.getLast? = some (k, e) ∧
      e.id = localId s.resolveFork.nextNumber ∧ e.sequence = s.store.nextSequence ∧
      e.status = .pending ∧ e.kind = .instruction s.author (Text.trim text) false := by
  have taken : s.intake? (.submitInstruction text now) =
      some (s.resolveFork.numbered, s.resolveFork.submission (Text.trim text), now) := by
    rw [intake?, instruction?, if_neg (by simp [full])]
  obtain ⟨holds₁, next₁, after⟩ := course_of_intake? holds taken
  rw [log_numbered] at holds₁ after
  rw [perform_submitInstruction] at after
  have sound₂ := (holds₁.take (s.resolveFork.submission (Text.trim text)) now).sound
  obtain ⟨k, e, found, id, sequence, status, kind, next⟩ :=
    entry_submission (s := s.resolveFork) holds₁.sound (Text.trim text) now
  have unfinished : e.status.isFinished = false := by rw [status]; rfl
  obtain ⟨discarded, stays⟩ := after.get?_of_unfinished sound₂ found unfinished
  have sound' := (after.coherent (holds₁.take _ now)).sound
  have next' := (nextSequence_tends after sound₂).trans next
  have last := sound'.getLast?_entries stays (by rw [next', ← sequence])
  have author : s.resolveFork.author = s.author := congrArg Desk.author (desk_resolveFork s)
  rw [store_log] at last
  exact ⟨k, _, last, id, sequence.trans next₁, status, author ▸ kind⟩

/-! ## The fork and the window -/

/-- An instruction ends the fork. -/
theorem IsPartitioned.fork_submitText (holds : s.IsPartitioned) (text : String) (now : Instant) :
    (s.submitText text now).2.fork = .live := by
  have holds' : s.resolveFork.numbered.IsPartitioned := holds.resolveFork
  have stays := holds'.stays_steps
    (ingest_steps s.resolveFork.numbered (s.resolveFork.submission text) now)
  rw [submitText_eq]
  exact stays.fork.trans (fork_resolveFork s)

/-- And it is followed. -/
theorem viewport_submitText (s : Session) (text : String) (now : Instant) :
    (s.submitText text now).2.viewport.follow = true ∧
      (s.submitText text now).2.viewport.offset =
        (s.submitText text now).2.viewport.maxOffset (s.submitText text now).2.size := by
  rw [submitText_eq]
  exact ⟨rfl, rfl⟩

/-! ## Submitting -/

/-- Submitting a text that is not blank succeeds, and comes to what it is to come to. -/
theorem IsPartitioned.submitted (holds : s.IsPartitioned) (coherent : s.log.Coherent) {text : String}
    (full : Text.allBlank text = false) (now : Instant) :
    (s.submitInstruction text now).1 = some (localId s.resolveFork.nextNumber) ∧
      s.Submitted s.author (Text.trim text) (localId s.resolveFork.nextNumber)
        (s.submitInstruction text now).2 := by
  have last := getLast?_submitInstruction coherent text now full
  have accepted : s.submitInstruction text now = s.submitText (Text.trim text) now := by
    rcases s.submitInstruction_cases text now with ⟨blank, -⟩ | ⟨-, same⟩
    · exact absurd (blank.symm.trans full) (by simp)
    · exact same
  rw [accepted] at last ⊢
  have holds' : (s.submitText (Text.trim text) now).2.IsPartitioned :=
    preserves_of_step holds (submitText_moves s _ now) fun _ _ move holds => holds.move move
  have live := holds.fork_submitText (Text.trim text) now
  have desk := desk_submitText s (Text.trim text) now
  have nextLocal : s.resolveFork.nextLocal = s.nextLocal :=
    congrArg Desk.nextLocal (desk_resolveFork s)
  obtain ⟨follow, at_end⟩ := viewport_submitText s (Text.trim text) now
  refine ⟨by rw [submitText_eq], ?unseen, ?number, last, live, ?kept, follow, at_end, ?request⟩
  case unseen =>
    rw [← hasSeen_resolveFork]
    exact s.resolveFork.hasSeen_nextNumber
  case number =>
    refine ⟨s.resolveFork.nextNumber, rfl, ?_, congrArg Desk.nextLocal desk, ?_⟩
    · rw [← nextLocal]
      exact s.resolveFork.nextLocal_le_nextNumber
    · intro m from_next below
      rw [← hasSeen_resolveFork]
      exact hasSeen_of_lt_unseenFrom _ _ _ m (nextLocal ▸ from_next) below
  case kept =>
    intro ke mem
    exact Fork.Partitions.discarded_of_live holds' live mem
  case request =>
    refine ⟨s.forkAfter?, congrArg Desk.outbound desk, ?_, ?_⟩
    · intro was_live
      rw [forkAfter?, was_live]
      rfl
    · intro forked
      cases fork : s.fork with
      | live => exact absurd fork forked
      | below i => exact holds.discarded_iff fork

/-! ## Runs -/

theorem remembersGone_run (keyed : s.store.Keyed) (remembers : s.store.RemembersGone)
    (later : List Action) :
    (s.run later).store.RemembersGone ∧ (s.run later).store.retiredCap = s.store.retiredCap := by
  induction later using List.reverseRecOn with
  | nil => exact ⟨remembers, rfl⟩
  | append_singleton later a ih =>
      rw [run_append]
      have last := (perform_changes (s.run later) a).remembersGone (keyed_run keyed later) ih.1
      exact ⟨last.1, last.2.trans ih.2⟩

/-- What has been seen stays so, unless more entries have gone than are remembered. -/
theorem hasSeen_run (keyed : s.store.Keyed) (remembers : s.store.RemembersGone) (later : List Action)
    (few : (s.run later).store.gone ≤ s.store.retiredCap) (seen : s.store.hasSeen id = true) :
    (s.run later).store.hasSeen id = true := by
  induction later using List.reverseRecOn with
  | nil => exact seen
  | append_singleton later a ih =>
      rw [run_append] at few ⊢
      have keyed' := keyed_run keyed later
      obtain ⟨remembers', cap⟩ := remembersGone_run keyed remembers later
      have fewer := Nat.le_trans (keyed_perform keyed' a).2 few
      refine (perform_changes (s.run later) a).hasSeen keyed' remembers' ?_ (ih fewer)
      show ((s.run later).perform a).store.gone ≤ (s.run later).store.retiredCap
      rw [cap]
      exact few

/-- The number of a submission is behind the next one. -/
theorem number_lt_nextLocal {text : String} {now : Instant}
    (submitted : (s.submitInstruction text now).1 = some id) :
    ∃ n, id = localId n ∧ n < (s.submitInstruction text now).2.nextLocal := by
  rcases s.submitInstruction_cases text now with ⟨-, same⟩ | ⟨-, same⟩
  · rw [same] at submitted
    exact absurd submitted (by simp)
  · rw [same] at submitted ⊢
    have nextLocal := congrArg Desk.nextLocal (desk_submitText s (Text.trim text) now)
    rw [submitText_eq] at submitted
    exact ⟨_, (Option.some.inj submitted).symm, Nat.lt_of_succ_le nextLocal.ge⟩

/-- An id that is new to a run: no submission before had it, and while nothing has been forgotten, no entry
at all. -/
structure Unheard (c : Config) (actions : List Action) (id : CorrelationId) : Prop where
  submissions : ∀ before text now, before ++ [.submitInstruction text now] <+: actions →
    (((start c).run before).submitInstruction text now).1 ≠ some id
  entries : ((start c).run actions).counters.evicted ≤ c.retiredIds →
    ∀ before, before <+: actions → ((start c).run before).store.hasSeen id = false

theorem unheard_of_submitted (c : Config) (actions : List Action) {author text : String}
    {s' : Session} (submitted : ((start c).run actions).Submitted author text id s') :
    Unheard c actions id := by
  constructor
  · rintro before text now ⟨rest, rfl⟩ earlier
    obtain ⟨n, rfl, from_next, -⟩ := submitted.number
    obtain ⟨m, same, below⟩ := number_lt_nextLocal earlier
    obtain rfl := localId_injective same
    rw [run_append, run_append] at from_next
    have later := nextLocal_le_run (((start c).run before).run [.submitInstruction text now]) rest
    rw [run_submitInstruction] at later from_next
    exact absurd (Nat.lt_of_lt_of_le below (Nat.le_trans later from_next)) (Nat.lt_irrefl n)
  · rintro few before ⟨rest, rfl⟩
    refine Bool.eq_false_iff.mpr fun seen => ?_
    have keyed := keyed_run (keyed_start c) before
    obtain ⟨remembers, cap⟩ := remembersGone_run (keyed_start c)
      (Store.remembersGone_empty c.retiredIds) before
    rw [← gone_run, run_append] at few
    have still := hasSeen_run keyed remembers rest (cap.symm ▸ few) seen
    rw [← run_append] at still
    exact absurd (still.symm.trans submitted.unseen) (by simp)

/-- Whatever has been done, a text that is blank is not submitted and changes nothing, and any other is
submitted as it should be. -/
theorem submits_run (c : Config) (actions : List Action) (text : String) (now : Instant) :
    (Text.trim text = "" →
      ((start c).run actions).submitInstruction text now = (none, (start c).run actions)) ∧
    (Text.trim text ≠ "" → ∃ id s',
      ((start c).run actions).submitInstruction text now = (some id, s') ∧
      ((start c).run actions).Submitted c.author (Text.trim text) id s' ∧ Unheard c actions id) := by
  have holds := (isPartitioned_start c).run actions
  have coherent := coherent_log_run (coherent_log_start c) actions
  have author := author_run c actions
  have empty : Text.trim text = "" ↔ Text.allBlank text = true := by
    rw [← Text.isEmpty_trim, String.isEmpty_iff]
  rw [ne_eq, empty, Bool.not_eq_true]
  constructor
  · intro blank
    rcases submitInstruction_cases ((start c).run actions) text now with ⟨-, same⟩ | ⟨full, -⟩
    · exact same
    · exact absurd (blank.symm.trans full) (by simp)
  · intro full
    obtain ⟨accepted, submitted⟩ := holds.submitted coherent full now
    rw [author] at submitted
    have unheard := unheard_of_submitted c actions submitted
    generalize ((start c).run actions).submitInstruction text now = answer at accepted submitted ⊢
    obtain ⟨id, s'⟩ := answer
    simp only at accepted submitted
    exact ⟨_, s', by rw [accepted], submitted, unheard⟩

/-- An instruction is submitted while the second of two files is discarded. -/
theorem submits_run_cardRaised :
    Text.trim " go " ≠ "" ∧ ∃ s', ((start .standard).run cardRaised).submitInstruction " go " 0 =
        (some (localId 0), s') ∧
      ((start .standard).run cardRaised).Submitted Config.standard.author (Text.trim " go ")
        (localId 0) s' ∧
      s'.outbound = [.submitInstruction (localId 0) "go" (some 0)] := by
  have full : Text.trim " go " ≠ "" := by decide
  obtain ⟨id, s', accepted, submitted, -⟩ := (submits_run .standard cardRaised " go " 0).2 full
  have answer : (((start .standard).run cardRaised).submitInstruction " go " 0).1 =
      some (localId 0) := by
    decide +kernel
  have is_first : some id = some (localId 0) := (congrArg Prod.fst accepted).symm.trans answer
  have left : (((start .standard).run cardRaised).submitInstruction " go " 0).2 = s' :=
    congrArg Prod.snd accepted
  obtain rfl := Option.some.inj is_first
  refine ⟨full, s', accepted, submitted, ?_⟩
  rw [← left]
  decide +kernel

end Session

end Chronicle
