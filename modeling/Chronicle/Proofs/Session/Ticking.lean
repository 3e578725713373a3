import Chronicle.Proofs.Screen.Content
import Chronicle.Proofs.Session.Changes
import Chronicle.Proofs.Session.Rows
import Chronicle.Proofs.Text

/-!
# What is drawn and the clock

Beside the label of an entry its time is drawn, and while the entry is not finished that goes with the
clock.  `IsPartitioned.content_eq_iff` says that nothing else on the screen does: what is drawn at two
times is the same exactly if the times behind the entries of the window are, and that behind the pinned
hero.

A session asks to be drawn again at every tick while an entry runs.  That is all there is to ask for as
far as running entries go, but an instruction that waits has a time too.  `tickSound_iff` says that the
answer can be trusted (`TickSound`) exactly when no such instruction is in the window.
-/

namespace Chronicle

/-! ## Entries at a time -/

/-- No time noted of an entry is after `t`. -/
def Entry.isPast (e : Entry) (t : Instant) : Bool :=
  e.started.all (· ≤ t) && e.ended.all (· ≤ t) && e.updated.all (· ≤ t)

theorem Entry.isPast_of_le {e : Entry} {t t' : Instant} (past : e.isPast t = true) (le : t ≤ t') :
    e.isPast t' = true := by
  have later (noted : Option Instant) (past : noted.all (· ≤ t) = true) :
      noted.all (· ≤ t') = true := by
    cases noted with
    | none => rfl
    | some n => exact decide_eq_true (Nat.le_trans (of_decide_eq_true past) le)
  simp only [isPast, Bool.and_eq_true] at past ⊢
  exact ⟨⟨later _ past.1.1, later _ past.1.2⟩, later _ past.2⟩

theorem Entry.exists_isPast (e : Entry) : ∃ t, e.isPast t = true := by
  have bound (noted : Option Instant) (t : Instant) (le : noted.getD 0 ≤ t) :
      noted.all (· ≤ t) = true := by
    cases noted with
    | none => rfl
    | some n => exact decide_eq_true le
  refine ⟨e.started.getD 0 + e.ended.getD 0 + e.updated.getD 0, ?_⟩
  simp only [isPast, Bool.and_eq_true]
  refine ⟨⟨bound _ _ ?_, bound _ _ ?_⟩, bound _ _ (Nat.le_add_left _ _)⟩
  · rw [Nat.add_assoc]
    exact Nat.le_add_right _ _
  · exact Nat.le_trans (Nat.le_add_left _ _) (Nat.le_add_right _ _)

/-- The time drawn behind the label of an entry. -/
def Entry.timeText (e : Entry) (now : Instant) : Option String :=
  if e.kind.isThought then none else (e.elapsed now).map Screen.elapsedText

/-- A whole number of minutes. -/
theorem Screen.elapsedText_minutes {q : Nat} (pos : 1 ≤ q) :
    elapsedText (q * 60000000000) = toString q ++ "m00s" := by
  have seconds : Duration.seconds (q * 60000000000) = q * 60 := by
    rw [Duration.seconds, Duration.nanosPerSecond]
    omega
  have minutes : q * 60 / 60 = q := by omega
  have rest : q * 60 % 60 = 0 := by omega
  have long : 60 ≤ q * 60 := by omega
  rw [elapsedText, seconds, if_pos long, minutes, rest, String.append_assoc, String.append_assoc]
  rfl

namespace Entry

variable {e : Entry}

theorem Coherent.timeText_eq (holds : e.Coherent) (finished : e.status.isFinished = true)
    (t t' : Instant) : e.timeText t = e.timeText t' := by
  rw [timeText, timeText, holds.elapsed_eq finished t t']

/-- The time behind an entry that waits, a whole number of minutes after its start. -/
theorem Coherent.timeText_minutes (holds : e.Coherent) (pending : e.status = .pending)
    {started : Nat} (at_start : e.started = some started) {q : Nat} (pos : 1 ≤ q) :
    e.timeText (started + q * 60000000000) = some (toString q ++ "m00s") := by
  obtain ⟨author, text, kind⟩ := holds.isUnconfirmed_iff.mpr pending
  have unended : e.ended = none := by
    have ended := holds.ended
    rw [pending] at ended
    exact Option.not_isSome_iff_eq_none.mp fun some_end => absurd (ended.mp some_end) (by decide)
  have elapsed : e.elapsed (started + q * 60000000000) = some (q * 60000000000) := by
    rw [Entry.elapsed, at_start, unended, Option.map_some, Instant.since, Nat.add_sub_cancel_left]
  rw [timeText, kind, elapsed, Option.map_some, Screen.elapsedText_minutes pos]
  rfl

/-- The time behind an entry that waits changes, sooner or later and always again. -/
theorem Coherent.exists_timeText_ne (holds : e.Coherent) (dated : e.started.isSome = true)
    (pending : e.status = .pending) (from_t : Nat) :
    ∃ t t' : Nat, from_t ≤ t ∧ from_t ≤ t' ∧ e.timeText t ≠ e.timeText t' := by
  obtain ⟨(started : Nat), at_start⟩ := Option.isSome_iff_exists.mp dated
  refine ⟨started + (from_t + 1) * 60000000000, started + (from_t + 2) * 60000000000, by omega,
    by omega, fun same => ?_⟩
  rw [holds.timeText_minutes pending at_start (by omega),
    holds.timeText_minutes pending at_start (by omega)] at same
  have digits := (String.append_left_inj _).mp (Option.some.inj same)
  have := Text.toString_injective digits
  omega

end Entry

/-! ## Every entry has a start -/

/-- It is known of every entry when it started. -/
def Log.Dated (l : Log) : Prop := ∀ k e, l.store.get? k = some e → e.started.isSome = true

namespace Log

variable {l l' : Log} {reword : Key → Kind → Prop}

/-- A start stays, and the only new entry there can be has one. -/
theorem Change.dated (change : Change reword l l') (holds : l.Coherent) (dated : l.Dated) :
    l'.Dated := by
  have kept : ∀ k e', l'.store.get? k = some e' → e'.sequence < l.store.nextSequence →
      e'.started.isSome = true := by
    intro k e' found' old
    obtain ⟨e, found, follows⟩ := (change.continues holds).entries k e' found' old
    rw [follows.started]
    exact dated k e found
  have below : ∀ k e', l'.store.get? k = some e' → e'.sequence < l'.store.nextSequence :=
    fun _ _ found' => (change.coherent holds).sound.sequence_lt_next found'
  intro k e' found'
  -- only an append brings an entry; all others are old, and their start is the one they had
  cases change with
  | append none_open id kind status now suits unused =>
      rw [holds.sound.get?_append] at found'
      split at found'
      · obtain rfl := Option.some.inj found'
        rfl
      · exact dated k e' found'
  | evict k' =>
      refine kept k e' found' ?_
      have lt := below k e' found'
      rcases holds.sound.evict_cases k' with ⟨v, refused⟩ | ⟨e, p, found, -, -, -, evicted⟩
      · rwa [refused] at lt
      · rwa [evicted, Store.nextSequence_without] at lt
  | _ => exact kept k e' found' (below k e' found')

theorem Changes.dated (changes : Changes reword l l') (holds : l.Coherent) (dated : l.Dated) :
    l'.Dated := by
  induction changes with
  | refl => exact dated
  | tail before change ih => exact change.dated (Changes.coherent before holds) ih

end Log

namespace Session

variable {s : Session} {t t' : Instant}

theorem dated_log_run (c : Config) (actions : List Action) :
    ((start c).run actions).log.Coherent ∧ ((start c).run actions).log.Dated := by
  refine run_induct (motive := fun s => s.log.Coherent ∧ s.log.Dated) ⟨coherent_log_start c, ?_⟩
    actions ?_
  · intro k e found
    simp [start, log, Store.empty, Store.get?, Store.slot?] at found
  · rintro s a - ⟨holds, dated⟩
    have changes := perform_changes s a
    exact ⟨changes.coherent holds, changes.dated holds dated⟩

/-! ## The content at two times -/

/-- The row of an entry is drawn alike at two times exactly if the time behind it is. -/
theorem content_rowOf_eq_iff {isPinned : Bool} {kep : (Key × Entry) × Nat} :
    (s.rowOf t isPinned kep).content = (s.rowOf t' isPinned kep).content ↔
      kep.1.2.timeText t = kep.1.2.timeText t' := by
  constructor
  · intro same
    exact congrArg EntryContent.time same
  · intro same
    have time : (s.rowOf t isPinned kep).time = (s.rowOf t' isPinned kep).time := same
    rw [EntryRow.content, EntryRow.content, time]
    rfl

theorem IsPartitioned.content_rows_eq (holds : s.IsPartitioned)
    (window : ∀ kep ∈ s.window, (s.rowOf t false kep).content = (s.rowOf t' false kep).content)
    (pinned : ∀ kep ∈ s.strayHero?.toList,
      (s.rowOf t true kep).content = (s.rowOf t' true kep).content) :
    (s.rows t).map Row.content = (s.rows t').map Row.content := by
  have alike (l : List ((Key × Entry) × Nat)) (isPinned : Bool)
      (same : ∀ kep ∈ l, (s.rowOf t isPinned kep).content = (s.rowOf t' isPinned kep).content) :
      ((l.map (s.rowOf t isPinned)).map Row.entry).map Row.content =
        ((l.map (s.rowOf t' isPinned)).map Row.entry).map Row.content := by
    simp only [List.map_map]
    exact List.map_congr_left fun kep mem => congrArg RowContent.entry (same kep mem)
  have part (p : (Key × Entry) × Nat → Bool) :=
    alike (s.window.filter p) false fun kep mem => window kep (List.mem_filter.mp mem).1
  cases fork : s.fork with
  | live =>
      rw [rows_of_live holds.sound t fork, rows_of_live holds.sound t' fork]
      simp only [List.map_append, alike s.window false window, alike _ true pinned]
  | below i =>
      have inside := holds.inside i fork
      rw [rows_of_below holds.sound t fork inside, rows_of_below holds.sound t' fork inside]
      simp only [List.map_append, part, alike _ true pinned]

/-- Of what is drawn, only the times behind the entries of the window and behind the pinned hero go with
the clock. -/
theorem IsPartitioned.content_eq_iff (holds : s.IsPartitioned) (t t' : Instant) :
    (s.snapshot t).content = (s.snapshot t').content ↔
      (∀ kep ∈ s.window, kep.1.2.timeText t = kep.1.2.timeText t') ∧
      ∀ kep, s.strayHero? = some kep → kep.1.2.timeText t = kep.1.2.timeText t' := by
  constructor
  · intro same
    have entries := (s.snapshot t').filterMap_content
    rw [← same, Snapshot.filterMap_content] at entries
    rw [(holds.entryRows_snapshot t).1, (holds.entryRows_snapshot t').1, List.map_append,
      List.map_append] at entries
    obtain ⟨window, stray⟩ := List.append_inj entries (by simp)
    simp only [List.map_map, List.map_inj_left, Function.comp_apply] at window stray
    refine ⟨fun kep mem => content_rowOf_eq_iff.mp (window kep mem), fun kep hero => ?_⟩
    exact content_rowOf_eq_iff.mp (stray kep (by rw [hero]; exact List.mem_singleton_self _))
  · rintro ⟨window, stray⟩
    have in_window : ∀ kep ∈ s.window,
        (s.rowOf t false kep).content = (s.rowOf t' false kep).content :=
      fun kep mem => content_rowOf_eq_iff.mpr (window kep mem)
    have pinned : ∀ kep ∈ s.strayHero?.toList,
        (s.rowOf t true kep).content = (s.rowOf t' true kep).content :=
      fun kep mem => content_rowOf_eq_iff.mpr (stray kep (Option.mem_toList.mp mem))
    rw [Snapshot.content, Snapshot.content, rows_snapshot, rows_snapshot,
      holds.content_rows_eq in_window pinned]
    rfl

/-! ## Ticks -/

theorem needsTickRedraw_eq_false_iff :
    s.needsTickRedraw = false ↔ ∀ ke ∈ s.store.entries, ke.2.isRunning = false := by
  rw [← Store.heroAt?_eq_none, needsTickRedraw, Store.candidate?_eq, Option.isSome_map,
    Option.isSome_eq_false_iff, Option.isNone_iff_eq_none]

/-- No time noted of a live entry is after `t`. -/
def isPast (s : Session) (t : Instant) : Bool := s.store.entries.all fun ke => ke.2.isPast t

/-- After some time, everything that is noted is past. -/
theorem exists_isPast (s : Session) : ∃ t, ∀ t', t ≤ t' → s.isPast t' = true := by
  simp only [isPast]
  induction s.store.entries with
  | nil => exact ⟨0, fun _ _ => rfl⟩
  | cons ke rest ih =>
      obtain ⟨t, past⟩ := ke.2.exists_isPast
      obtain ⟨t', rest_past⟩ := ih
      refine ⟨t + t', fun u le => ?_⟩
      have first := Entry.isPast_of_le past (Nat.le_trans (Nat.le_add_right t t') le)
      have others := rest_past u (Nat.le_trans (Nat.le_add_left t' t) le)
      rw [List.all_cons, first, others]
      rfl

/-- If a session does not ask to be drawn again at a tick, then the same is drawn at all times that are
not in the past. -/
def TickSound (s : Session) : Prop :=
  s.needsTickRedraw = false → ∀ t t', s.isPast t = true → s.isPast t' = true →
    (s.snapshot t).content = (s.snapshot t').content

theorem IsPartitioned.found_of_window (holds : s.IsPartitioned) {kep : (Key × Entry) × Nat}
    (mem : kep ∈ s.window) : s.store.get? kep.1.1 = some kep.1.2 :=
  holds.sound.mem_entries.mp (List.mem_of_getElem? (mem_window.mp mem).1)

/-- While nothing runs and nothing in the window waits, the same is drawn at all times. -/
theorem IsPartitioned.content_eq_of_still (holds : s.IsPartitioned) (coherent : s.log.Coherent)
    (still : s.needsTickRedraw = false) (no_pending : ∀ kep ∈ s.window, kep.1.2.status ≠ .pending)
    (t t' : Instant) : (s.snapshot t).content = (s.snapshot t').content := by
  have none_runs := needsTickRedraw_eq_false_iff.mp still
  refine (holds.content_eq_iff t t').mpr ⟨fun kep mem => ?_, fun kep stray => ?_⟩
  · have running := none_runs kep.1 (List.mem_of_getElem? (mem_window.mp mem).1)
    have finished : kep.1.2.status.isFinished = true := by
      cases status : kep.1.2.status with
      | pending => exact absurd status (no_pending kep mem)
      | running => exact absurd running (by simp [Entry.isRunning, status])
      | completed => rfl
      | failed => rfl
    exact (coherent.entries _ _ (holds.found_of_window mem)).timeText_eq finished t t'
  · have hero := (Option.filter_eq_some_iff.mp stray).1
    rw [Store.heroAt?_eq_none.mpr none_runs] at hero
    exact absurd hero (by simp)

/-- While something in the window waits, what is drawn goes on changing. -/
theorem IsPartitioned.exists_content_ne (holds : s.IsPartitioned) (coherent : s.log.Coherent)
    (dated : s.log.Dated) {kep : (Key × Entry) × Nat} (mem : kep ∈ s.window)
    (pending : kep.1.2.status = .pending) :
    ∃ t t', s.isPast t = true ∧ s.isPast t' = true ∧
      (s.snapshot t).content ≠ (s.snapshot t').content := by
  obtain ⟨from_t, past⟩ := s.exists_isPast
  have found := holds.found_of_window mem
  obtain ⟨t, t', le, le', differ⟩ :=
    (coherent.entries _ _ found).exists_timeText_ne (dated _ _ found) pending from_t
  refine ⟨t, t', past t le, past t' le', fun same => ?_⟩
  exact differ (((holds.content_eq_iff t t').mp same).1 kep mem)

theorem tickSound_iff (c : Config) (actions : List Action) :
    ((start c).run actions).TickSound ↔
      (((start c).run actions).needsTickRedraw = false →
        ∀ kep ∈ ((start c).run actions).window, kep.1.2.status ≠ .pending) := by
  obtain ⟨coherent, dated⟩ := dated_log_run c actions
  have holds := (isPartitioned_start c).run actions
  constructor
  · intro sound still kep mem pending
    obtain ⟨t, t', past, past', differ⟩ := holds.exists_content_ne coherent dated mem pending
    exact differ (sound still t t' past past')
  · intro no_pending still t t' _ _
    exact holds.content_eq_of_still coherent still (no_pending still) t t'

/-- An instruction that has just been shown: nothing asks to be drawn again, and after a minute the time
behind it is another. -/
theorem not_tickSound_submitted :
    ¬ ((start .standard).run
      [.handle (.inputSubmitted (.producer "a") "ada" "hello") 0]).TickSound := by
  intro sound
  have same := sound rfl 60000000000 120000000000 rfl rfl
  exact absurd (congrArg Content.rows same) (by decide)

end Session

end Chronicle
