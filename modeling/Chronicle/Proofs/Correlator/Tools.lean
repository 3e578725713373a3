import Chronicle.Proofs.Correlator.Changes
import Chronicle.Proofs.Store.Leases

/-!
# What a message does to the tools that run

Output that comes for a running tool is taken (`apply_output`), by whichever of the two ways it names the
tool, and a chunk for anything else is refused (`apply_chunk_refused`).  From the other side: a tool that
runs after a message has just been started by it, or it was running before and has taken the piece of
output that the message was for it, if it was one (`tool_apply`).

A message that starts a tool grants it the right to be streamed into, one that ends it takes the right
back, and no other touches it (`leased_apply`).
-/

namespace Chronicle

/-! ## Running tools -/

theorem Kind.isToolUse_eq (kind : Kind) : kind.isToolUse = (kind.ctorIdx == 0) := by
  cases kind <;> rfl

namespace Entry

variable {e : Entry}

/-- A tool that runs.  It is the one sort of entry that output is taken for. -/
def isWriting (e : Entry) : Bool := e.isRunning && e.kind.isToolUse

theorem isWriting_iff : e.isWriting = true ↔ e.isRunning = true ∧ e.kind.isToolUse = true :=
  Bool.and_eq_true_iff

theorem isWriting_eq_false (plain : e.kind.isToolUse = false) : e.isWriting = false := by
  rw [isWriting, plain, Bool.and_false]

theorem isRunning_complete (e : Entry) (codes : List Int) (output : String) (summary : Option String)
    (now : Instant) : (e.complete codes output summary now).isRunning = false := by
  have finished := status_ofExitCodes_isFinished codes
  cases status : Status.ofExitCodes codes <;>
    simp_all [complete, finish, isRunning, Status.isFinished]

theorem isWriting_complete (e : Entry) (codes : List Int) (output : String) (summary : Option String)
    (now : Instant) : (e.complete codes output summary now).isWriting = false := by
  rw [isWriting, isRunning_complete, Bool.false_and]

theorem isToolUse_think (opened : e.isOpen = true) (text : String) (now : Instant) :
    (e.think text now).kind.isToolUse = false := by
  obtain ⟨-, body, kind⟩ := isOpen_iff.mp opened
  simp [think, kind, Kind.isToolUse]

theorem isToolUse_closeBurst (opened : e.isOpen = true) (now : Instant) :
    (e.closeBurst now).kind.isToolUse = false := by
  obtain ⟨-, body, kind⟩ := isOpen_iff.mp opened
  rw [closeBurst_of_isOpen opened]
  simp [finish, kind, Kind.isToolUse]

theorem isToolUse_confirm (e : Entry) (author text : String) (now : Instant) :
    (e.confirm author text now).kind.isToolUse = false := by
  rw [confirm_kind]
  rfl

end Entry

/-- The piece of output that a message is for the entry of a key. -/
def Message.pieceFor? (s : Store) (k : Key) (m : Message) : Option Piece :=
  (m.output? s).bind fun (k', p) => if k' = k then some p else none

theorem Message.pieceFor?_eq_some {s : Store} {k : Key} {m : Message} {p : Piece} :
    m.pieceFor? s k = some p ↔ m.output? s = some (k, p) := by
  rw [pieceFor?, Option.bind_eq_some_iff]
  constructor
  · rintro ⟨⟨k', p'⟩, output, here⟩
    simp only [Option.ite_none_right_eq_some] at here
    obtain ⟨rfl, same⟩ := here
    rw [output, Option.some.inj same]
  · intro output
    exact ⟨(k, p), output, by simp⟩

namespace Correlator

variable {c : Correlator} {s : Store} {m : Message} {now : Instant} {k : Key} {e e' : Entry}
  {p : Piece}

/-! ## Output -/

/-- Output for a running tool is taken. -/
theorem apply_output (c : Correlator) (now : Instant) (found : s.get? k = some e)
    (writes : e.isWriting = true) (output : m.output? s = some (k, p)) :
    c.apply s m now = ⟨.ok (.updated k), c, s.update k (p.edit now).run⟩ := by
  obtain ⟨runs, tool⟩ := Entry.isWriting_iff.mp writes
  have running {id : CorrelationId} (label : String) (named : s.keyOf? id = some k) :
      runningTool s id label = .ok k := runningTool_eq_ok.mpr ⟨named, e, found, runs, tool⟩
  unfold Message.output? at output
  split at output
  · next id line bytes =>
      obtain ⟨k', named, same⟩ := Option.map_eq_some_iff.mp output
      obtain ⟨rfl, rfl⟩ := Prod.mk.inj same
      rw [apply, updateTool, running _ named]
      rfl
  · next target chunk =>
      obtain ⟨rfl, rfl⟩ := Prod.mk.inj (Option.some.inj output)
      simp only [apply, streamDelta, found, runs, tool, Bool.not_true, Bool.false_eq_true, if_false]
      rfl
  · next id level text =>
      obtain ⟨k', named, same⟩ := Option.map_eq_some_iff.mp output
      obtain ⟨rfl, rfl⟩ := Prod.mk.inj same
      rw [apply, updateTool, running _ named]
      rfl
  · exact absurd output (by simp)

/-- A running tool is ended by the message that names it. -/
theorem apply_completion (c : Correlator) {id : CorrelationId} (codes : List Int) (output : String)
    (summary : Option String) (now : Instant) (found : s.get? k = some e)
    (writes : e.isWriting = true) (named : s.keyOf? id = some k) :
    c.apply s (.toolCompleted id codes output summary) now =
      ⟨.ok (.finished k), c,
        (s.update k (Entry.completeEdit codes output summary now).run).releaseLease k⟩ := by
  obtain ⟨runs, tool⟩ := Entry.isWriting_iff.mp writes
  have running : runningTool s id "tool_completed" = .ok k :=
    runningTool_eq_ok.mpr ⟨named, e, found, runs, tool⟩
  rw [apply, completeTool, Message.label, running]
  rfl

/-- A chunk for anything but a running tool is refused. -/
theorem apply_chunk_refused (c : Correlator) (chunk : String) (now : Instant)
    (idle : ∀ e, s.get? k = some e → e.isWriting = false) :
    ∃ refusal, (c.apply s (.streamDelta k chunk) now).result = .error refusal := by
  simp only [apply, streamDelta]
  cases found : s.get? k with
  | none => exact ⟨_, rfl⟩
  | some e =>
      simp only
      split
      · exact ⟨_, rfl⟩
      · next runs =>
          split
          · exact ⟨_, rfl⟩
          · next tool =>
              have writes : e.isWriting = true :=
                Entry.isWriting_iff.mpr ⟨by simpa using runs, by simpa using tool⟩
              exact absurd ((idle e found).symm.trans writes) Bool.false_ne_true

/-! ## The tools after a message -/

/-- Closing the thoughts changes nothing but a thought that was open. -/
theorem closeThoughts_cases (holds : Log.Coherent ⟨c, s⟩) (now : Instant) :
    (c.closeThoughts s now).2 = s ∨
    ∃ k e, s.get? k = some e ∧ e.isOpen = true ∧
      (c.closeThoughts s now).2 = s.update k (Entry.closeEdit now).run := by
  rcases holds.openThoughts_cases with none | ⟨k, one⟩
  · exact .inl (by simp only at none; simp [closeThoughts, none])
  · obtain ⟨e, found, opened⟩ := (holds.thoughts k).mp (by rw [one]; exact List.mem_singleton_self k)
    simp only at one
    exact .inr ⟨k, e, found, opened, by simp only [closeThoughts, one]; rfl⟩

/-- A tool that runs after a message has just been started, or it ran before, and what has changed
about it is what the message said. -/
theorem tool_apply (holds : Log.Coherent ⟨c, s⟩)
    (found' : (c.apply s m now).store.get? k = some e') (writes' : e'.isWriting = true) :
    (e'.sequence = s.nextSequence ∧
      ∃ tool command, e'.kind = .toolUse (.start tool command)) ∨
    ∃ e, s.get? k = some e ∧ e.isWriting = true ∧
      e' = (m.pieceFor? s k).elim e fun p => (p.edit now).run e := by
  have kept (was : s.get? k = some e') : ∃ e, s.get? k = some e ∧ e.isWriting = true ∧
      e' = (m.pieceFor? s k).elim e fun p => (p.edit now).run e := by
    refine ⟨e', was, writes', ?_⟩
    cases piece : m.pieceFor? s k with
    | none => rfl
    | some p =>
        rw [apply_output c now was writes' (Message.pieceFor?_eq_some.mp piece)] at found'
        simp only [Store.get?_update_self, was] at found'
        exact (Option.some.inj found').symm
  -- An entry that is not a running tool after the change is not the one in question.
  have edited {k₀ : Key} {e₀ : Entry} (f : Edit) (found : s.get? k₀ = some e₀)
      (idle : (f.run e₀).isWriting = false) (after : (s.update k₀ f.run).get? k = some e') :
      s.get? k = some e' := by
    by_cases same : k = k₀
    · subst same
      rw [Store.get?_update_self, found] at after
      obtain rfl := Option.some.inj after
      exact absurd (idle.symm.trans writes') Bool.false_ne_true
    · rwa [Store.get?_update_of_ne s f.run same] at after
  have deed := c.apply_deed s m now
  generalize c.apply s m now = r at deed found'
  cases deed with
  | refused refusal stale => exact .inr (kept found')
  | ignored other => exact .inr (kept found')
  | started id kind status suits names starts =>
      have closed := sound_closeThoughts c holds.sound now
      obtain ⟨-, next, -⟩ := closeThoughts_frame c s now
      have after : ((c.closeThoughts s now).2.append id kind status now).2.get? k = some e' := found'
      rw [closed.get?_append] at after
      split at after
      · obtain rfl := Option.some.inj after
        obtain ⟨tool, command, -, is, -⟩ := starts (Entry.isWriting_iff.mp writes').2
        exact .inl ⟨next, tool, command, is⟩
      · rcases closeThoughts_cases holds now with same | ⟨k₀, e₀, found, opened, same⟩
        · exact .inr (kept (same ▸ after))
        · rw [same] at after
          have idle := Entry.isWriting_eq_false (Entry.isToolUse_closeBurst opened now)
          exact .inr (kept (edited (Entry.closeEdit now) found idle after))
  | @recorded k₀ e₀ found running tool p written =>
      by_cases same : k = k₀
      · subst same
        simp only [Store.get?_update_self, found] at found'
        obtain rfl := Option.some.inj found'
        refine .inr ⟨e₀, found, Entry.isWriting_iff.mpr ⟨running, tool⟩, ?_⟩
        rw [Message.pieceFor?_eq_some.mpr written]
        rfl
      · simp only [Store.get?_update_of_ne s _ same] at found'
        exact .inr (kept found')
  | ended found running tool id codes output summary is named =>
      simp only [Store.get?_releaseLease] at found'
      exact .inr (kept (edited (Entry.completeEdit codes output summary now) found
        (Entry.isWriting_complete _ codes output summary now) found'))
  | thought found opened text =>
      have idle := Entry.isWriting_eq_false (Entry.isToolUse_think opened text now)
      exact .inr (kept (edited (Entry.thinkEdit text now) found idle found'))
  | thoughtLast found opened text =>
      refine .inr (kept (edited (Entry.thinkLastEdit text now) found ?_ found'))
      exact Entry.isWriting_eq_false (Entry.isToolUse_think opened text now)
  | confirmed found instruction author text allowed =>
      exact .inr (kept (edited (Entry.confirmEdit author text now) found
        (Entry.isWriting_eq_false (Entry.isToolUse_confirm _ author text now)) found'))

/-! ## Leases -/

theorem leased_closeThoughts (holds : Log.Coherent ⟨c, s⟩) (leased : s.Leased) (now : Instant) :
    (c.closeThoughts s now).2.Leased := by
  rcases closeThoughts_cases holds now with same | ⟨k, e, found, opened, same⟩
  · rw [same]
    exact leased
  · rw [same]
    refine leased.edit k (Entry.closeEdit now) fun e' found' tool => ?_
    obtain rfl := Option.some.inj (found.symm.trans found')
    exact absurd ((Entry.isToolUse_closeBurst opened now).symm.trans tool) Bool.false_ne_true

/-- A tool is granted its right when it starts, and loses it when it ends. -/
theorem leased_apply (holds : Log.Coherent ⟨c, s⟩) (leased : s.Leased) (m : Message)
    (now : Instant) : (c.apply s m now).store.Leased := by
  have plain {k : Key} {e : Entry} (f : Edit) (found : s.get? k = some e)
      (other : (f.run e).kind.isToolUse = false) : (s.update k f.run).Leased := by
    refine leased.edit k f fun e' found' tool => ?_
    obtain rfl := Option.some.inj (found.symm.trans found')
    exact absurd (other.symm.trans tool) Bool.false_ne_true
  have deed := c.apply_deed s m now
  generalize c.apply s m now = r at deed
  cases deed with
  | refused refusal stale => exact leased
  | ignored other => exact leased
  | started id kind status suits names starts =>
      have closed := sound_closeThoughts c holds.sound now
      refine (leased_closeThoughts holds leased now).append closed id kind status now fun tool => ?_
      obtain ⟨_, _, -, -, runs⟩ := starts tool
      exact runs
  | recorded found running tool p written =>
      refine leased.edit _ (p.edit now) fun e' found' _ => ?_
      obtain rfl := Option.some.inj (found.symm.trans found')
      exact ⟨tool, rfl⟩
  | ended found running tool id codes output summary is named =>
      exact leased.end found (Entry.completeEdit codes output summary now)
        (Entry.isRunning_complete _ codes output summary now)
  | thought found opened text =>
      exact plain (Entry.thinkEdit text now) found (Entry.isToolUse_think opened text now)
  | thoughtLast found opened text =>
      exact plain (Entry.thinkLastEdit text now) found (Entry.isToolUse_think opened text now)
  | confirmed found instruction author text allowed =>
      exact plain (Entry.confirmEdit author text now) found
        (Entry.isToolUse_confirm _ author text now)

end Correlator

end Chronicle
