import Chronicle.Proofs.Session.Changes
import Chronicle.Proofs.Session.Trimming

/-!
# The history cap in a run

An action enforces the cap at one point or not at all (`capPoint?`): after the entry that its message
starts, or where it leaves the card live, or because it asks for just that.  Up to there every entry is
kept, and from there on `Basis.Trims` says what goes (`KeepsCap`).

So in every state the entries that were ever appended are there or were counted when they went, and while
the card is live there are not more of them than the cap allows, unless as many were unfinished at one
time (`historyCap_run`).
-/

namespace Chronicle

namespace Session

variable {s : Session} {a : Action}

/-! ## Where the cap is enforced -/

/-- What a session is once a message has started an entry in it, before any goes. -/
def appended? (s : Session) (m : Message) (now : Instant) : Option Basis :=
  match s.correlator.apply s.store m now with
  | ⟨.ok (.appended k), correlator, store⟩ =>
    some { s.basis with correlator, store := s.fork.markAppended store k }
  | _ => none

/-- What an action makes of a session up to where it enforces the history cap, if it does. -/
def capPoint? (s : Session) (a : Action) : Option Basis :=
  match s.intake? a with
  | some (s₁, m, now) => s₁.appended? m now
  | none =>
    match s.cardMove? a with
    | some (.ok .live, store) => some { s.basis with fork := .live, store }
    | some _ => none
    | none => if a = .enforceHistoryCap then some s.basis else none

/-- Some entries are new, and all that were there are there still, as they were named. -/
structure Basis.Gains (new : List (Key × CorrelationId × Nat)) (b b' : Basis) : Prop where
  names : b'.store.names = b.store.names ++ new
  next : b'.store.nextSequence = b.store.nextSequence + new.length
  evicted : b'.counters.evicted = b.counters.evicted
  historyCap : b'.historyCap = b.historyCap

/-- What an action does about the history cap. -/
structure KeepsCap (s : Session) (a : Action) : Prop where
  enforced : ∀ p, s.capPoint? a = some p →
    (∃ new, new.length ≤ 1 ∧ s.basis.Gains new p) ∧ p.Trims (s.perform a).basis
  /-- Where the cap is not enforced no entry goes, and a fork is not left. -/
  elsewhere : s.capPoint? a = none → s.basis.Gains [] (s.perform a).basis ∧
    (s.fork.isForked = true → (s.perform a).fork.isForked = true)
  /-- An entry that goes was finished and not discarded, and the card was live. -/
  disappears : ∀ k e, (k, e) ∈ s.store.entries →
    (∀ e', (k, e') ∈ (s.perform a).store.entries → e'.sequence ≠ e.sequence) →
    ∃ p e', s.capPoint? a = some p ∧ p.fork = .live ∧ (k, e') ∈ p.store.entries ∧
      e'.name = e.name ∧ e'.status.isFinished = true ∧ e'.discarded = false

theorem Basis.Gains.refl (b : Basis) : b.Gains [] b :=
  ⟨(List.append_nil _).symm, rfl, rfl, rfl⟩

theorem Basis.Gains.trans {b b' b'' : Basis} {new : List (Key × CorrelationId × Nat)}
    (first : b.Gains [] b') (rest : b'.Gains new b'') : b.Gains new b'' where
  names := by rw [rest.names, first.names, List.append_nil]
  next := by rw [rest.next, first.next, List.length_nil, Nat.add_zero]
  evicted := rest.evicted.trans first.evicted
  historyCap := rest.historyCap.trans first.historyCap

/-- Flags change no names. -/
theorem Basis.gains_partition (b : Basis) (f f' : Fork) :
    b.Gains [] { b with fork := f', store := f.partition b.store } where
  names := by rw [List.append_nil, f.names_partition]
  next := f.nextSequence_partition b.store
  evicted := rfl
  historyCap := rfl

/-! ## Messages -/

theorem IsPartitioned.closeThoughts (holds : s.IsPartitioned) (now : Instant) :
    s.fork.Partitions (s.correlator.closeThoughts s.store now).2 := by
  have closed : ({ s with store := (s.correlator.closeThoughts s.store now).2 } : Session).IsPartitioned :=
    preserves_of_step holds (closeThoughts_steps s now) fun _ _ step holds => holds.step step
  exact closed

/-- A message that starts an entry adds it, and then the cap is enforced. -/
theorem IsPartitioned.ingest_appended (holds : s.IsPartitioned) {m : Message} {now : Instant}
    {p : Basis} (appended : s.appended? m now = some p) :
    (∃ name, s.basis.Gains [name] p) ∧ p.fork.Partitions p.store ∧
      p.Trims (s.ingest m now).2.basis := by
  have effect := s.correlator.apply_effect s.store m now
  unfold appended? at appended
  rw [ingest]
  generalize s.correlator.apply s.store m now = r at effect appended ⊢
  cases effect with
  | appended c id kind status =>
      obtain rfl := Option.some.inj appended
      have closed := holds.closeThoughts now
      have sound := closed.sound
      obtain ⟨-, next, -⟩ := s.correlator.closeThoughts_frame s.store now
      obtain ⟨slots, marked⟩ := s.fork.markAppended_frame
        (s.correlator.start s.store id kind status now).2.2
        (s.correlator.start s.store id kind status now).1
      refine ⟨⟨((s.correlator.start s.store id kind status now).1, id, s.store.nextSequence),
        ?names, ?next, rfl, rfl⟩, ?partitions, ?trims⟩
      case names =>
        show (s.fork.markAppended _ _).names = s.store.names ++ _
        rw [Fork.names_markAppended, Correlator.start, sound.names_append,
          Correlator.names_closeThoughts, next]
      case next =>
        show (s.fork.markAppended _ _).nextSequence = s.store.nextSequence + 1
        rw [marked, Correlator.start, Store.nextSequence_append, next]
      case partitions => exact closed.append id kind status now
      case trims =>
        let entered : Session := { s with
          correlator := c
          store := s.fork.markAppended (s.correlator.start s.store id kind status now).2.2
            (s.correlator.start s.store id kind status now).1 }
        have holds' : (entered.moveWindow Viewport.onAppend).IsPartitioned :=
          closed.append id kind status now
        exact holds'.trims
  | _ => exact absurd appended (by simp [Correlator.refuse])

/-- Every other message leaves the entries that there are. -/
theorem ingest_not_appended {m : Message} {now : Instant} (none_new : s.appended? m now = none) :
    s.basis.Gains [] (s.ingest m now).2.basis ∧ (s.ingest m now).2.fork = s.fork := by
  have effect := s.correlator.apply_effect s.store m now
  unfold appended? at none_new
  rw [ingest]
  generalize s.correlator.apply s.store m now = r at effect none_new ⊢
  cases effect with
  | refused e stale =>
      exact ⟨⟨(List.append_nil _).symm, rfl, s.counters.evicted_refuse e, rfl⟩, rfl⟩
  | ignored other => exact ⟨.refl _, rfl⟩
  | appended c id kind status => exact absurd none_new (by simp)
  | updated k f keep live =>
      exact ⟨⟨by rw [List.append_nil]; exact s.store.names_update k f, rfl, rfl, rfl⟩, rfl⟩
  | confirmed k f keep live =>
      exact ⟨⟨by rw [List.append_nil]; exact s.store.names_update k f, rfl, rfl, rfl⟩, rfl⟩
  | finished c k f keep live =>
      exact ⟨⟨by rw [List.append_nil]; exact s.store.names_update k f, rfl, rfl, rfl⟩, rfl⟩
  | ended k f keep live =>
      refine ⟨⟨?_, rfl, rfl, rfl⟩, rfl⟩
      rw [List.append_nil]
      exact (Store.names_releaseLease _ k).trans (s.store.names_update k f)

/-- The session that takes a message in has the entries that there were. -/
theorem gains_intake {s₁ : Session} {m : Message} {now : Instant}
    (taken : s.intake? a = some (s₁, m, now)) : s.basis.Gains [] s₁.basis := by
  rcases intake?_cases taken with ⟨-, -, rfl⟩ | ⟨draft, text, rfl, -⟩
  · exact .refl _
  · show s.basis.Gains [] ({ s with draft } : Session).resolveFork.basis
    rw [resolveFork]
    split
    · exact s.basis.gains_partition .live .live
    · exact .refl _

theorem IsPartitioned.resolveFork (holds : s.IsPartitioned) : s.resolveFork.IsPartitioned :=
  preserves_of_step holds (resolveFork_moves s) fun _ _ move holds => holds.move move

theorem IsPartitioned.intake (holds : s.IsPartitioned) {s₁ : Session} {m : Message} {now : Instant}
    (taken : s.intake? a = some (s₁, m, now)) : s₁.IsPartitioned := by
  rcases intake?_cases taken with ⟨-, -, rfl⟩ | ⟨draft, text, rfl, -⟩
  · exact holds
  · have cleared : ({ s with draft } : Session).IsPartitioned := holds
    exact cleared.resolveFork

/-- A message that starts no entry finds the card where it was: an instruction is never refused. -/
theorem fork_intake {s₁ : Session} {m : Message} {now : Instant}
    (taken : s.intake? a = some (s₁, m, now)) (none_new : s₁.appended? m now = none) :
    s₁.fork = s.fork := by
  rcases intake?_cases taken with ⟨-, -, rfl⟩ | ⟨draft, text, rfl, rfl⟩
  · rfl
  · obtain ⟨k, accepted⟩ := ({ s with draft } : Session).resolveFork.apply_submission text now
    rw [appended?] at none_new
    generalize applied : Correlator.apply _ _ _ now = r at none_new
    have same : r.result = .ok (.appended k) := applied ▸ accepted
    obtain ⟨result, c, store⟩ := r
    simp only at same
    simp [same] at none_new

/-! ## The card -/

/-- A card that comes back to live has the cap enforced, and flags are all that changed before. -/
theorem IsPartitioned.applyFork_live (holds : s.IsPartitioned) {store : Store}
    (moved : s.fork.Moved s.store (.ok .live, store)) :
    s.basis.Gains [] { s.basis with fork := .live, store } ∧ Fork.Partitions .live store ∧
      ({ s.basis with fork := .live, store } : Basis).Trims (s.applyFork (.ok .live, store)).2.basis := by
  have turned : s.basis.Gains [] { s.basis with fork := .live, store } ∧
      ({ s with fork := .live, store } : Session).IsPartitioned := by
    cases moved with
    | turned =>
        refine ⟨s.basis.gains_partition .live .live, ?_⟩
        exact Fork.Partitions.partition holds.sound fun i below => absurd below (by simp)
    | stays live =>
        refine ⟨⟨(List.append_nil _).symm, rfl, rfl, rfl⟩, ?_⟩
        unfold IsPartitioned at holds ⊢
        rwa [live] at holds
  have moved' : (({ s with fork := .live, store } : Session).moveWindow
      Viewport.scrollToEnd).IsPartitioned := turned.2
  exact ⟨turned.1, turned.2, moved'.trims⟩

/-- A card that is put below an entry, or is not moved at all, leaves every entry. -/
theorem applyFork_not_live {r : Except ForkError Fork × Store} (moved : s.fork.Moved s.store r)
    (not_live : ∀ store, r ≠ (.ok .live, store)) :
    s.basis.Gains [] (s.applyFork r).2.basis ∧
      (s.fork.isForked = true → (s.applyFork r).2.fork.isForked = true) := by
  cases moved with
  | empty => exact ⟨.refl _, fun forked => forked⟩
  | turned f =>
      cases f with
      | live => exact absurd rfl (not_live _)
      | below i =>
          exact ⟨s.basis.gains_partition (.below i) (.below i), fun _ => rfl⟩
  | stays live => exact absurd rfl (not_live _)

/-! ## Actions -/

/-- Up to the point where it enforces the cap an action keeps every entry, and if there is no such point
it keeps every entry anyway. -/
theorem IsPartitioned.capPoint (holds : s.IsPartitioned) (asked : a.evicts = false) :
    (∀ p, s.capPoint? a = some p → p.fork.Partitions p.store ∧
      (∃ new, new.length ≤ 1 ∧ s.basis.Gains new p) ∧ p.Trims (s.perform a).basis) ∧
    (s.capPoint? a = none → s.basis.Gains [] (s.perform a).basis ∧
      (s.fork.isForked = true → (s.perform a).fork.isForked = true)) := by
  by_cases trim : a = .enforceHistoryCap
  · subst trim
    have point : s.capPoint? .enforceHistoryCap = some s.basis := rfl
    rw [point]
    refine ⟨fun p same => ?_, fun none => absurd none (by simp)⟩
    obtain rfl := Option.some.inj same
    exact ⟨holds, ⟨[], Nat.zero_le _, .refl _⟩, holds.trims⟩
  · cases bears s a with
    | intake s₁ m now taken left =>
        have point : s.capPoint? a = s₁.appended? m now := by rw [capPoint?, taken]
        rw [point, left]
        refine ⟨fun p appended => ?_, fun none_new => ?_⟩
        · obtain ⟨⟨name, gains⟩, flagged, trims⟩ := (holds.intake taken).ingest_appended appended
          exact ⟨flagged, ⟨[name], Nat.le_refl _, (gains_intake taken).trans gains⟩, trims⟩
        · obtain ⟨gains, stays⟩ := ingest_not_appended none_new
          have fork : (s.perform a).fork = s.fork :=
            (congrArg Basis.fork left).trans (stays.trans (fork_intake taken none_new))
          exact ⟨(gains_intake taken).trans gains, fun forked => fork ▸ forked⟩
    | card r other moved left =>
        have turned := moved_of_cardMove? moved
        have fork : (s.perform a).fork = (s.applyFork r).2.fork := congrArg Basis.fork left
        rw [capPoint?, other, moved, left, fork]
        obtain ⟨result, store⟩ := r
        cases result with
        | error e =>
            refine ⟨fun p point => absurd point (by simp), fun _ => ?_⟩
            exact applyFork_not_live turned fun store => by simp
        | ok f =>
            cases f with
            | live =>
                refine ⟨fun p point => ?_, fun point => absurd point (by simp)⟩
                obtain rfl := Option.some.inj point
                obtain ⟨gains, flagged, trims⟩ := holds.applyFork_live turned
                exact ⟨flagged, ⟨[], Nat.zero_le _, gains⟩, trims⟩
            | below i =>
                refine ⟨fun p point => absurd point (by simp), fun _ => ?_⟩
                exact applyFork_not_live turned fun store => by simp
    | trim is => exact absurd is trim
    | evict k is => exact absurd asked (by simp [is, Action.evicts])
    | connection free other unmoved connection reconnects left =>
        have fork : (s.perform a).fork = s.fork := congrArg Basis.fork left
        rw [capPoint?, other, unmoved, left, fork]
        refine ⟨fun p point => absurd point (by simp [trim]), fun _ => ⟨?_, fun forked => forked⟩⟩
        exact ⟨(List.append_nil _).symm, rfl, rfl, rfl⟩
    | aside other unmoved left =>
        have fork : (s.perform a).fork = s.fork := congrArg Basis.fork left
        rw [capPoint?, other, unmoved, left, fork]
        exact ⟨fun p point => absurd point (by simp [trim]), fun _ => ⟨.refl _, fun forked => forked⟩⟩

/-- A name that was there before is there where the cap is enforced. -/
theorem Basis.Gains.mem_entries {b b' : Basis} {new : List (Key × CorrelationId × Nat)}
    (gains : b.Gains new b') {k : Key} {e : Entry} (mem : (k, e) ∈ b.store.entries) :
    ∃ e', (k, e') ∈ b'.store.entries ∧ e'.name = e.name := by
  have named : (k, e.name) ∈ b'.store.names := by
    rw [gains.names]
    exact List.mem_append_left _ (List.mem_map.mpr ⟨(k, e), mem, rfl⟩)
  obtain ⟨⟨k', e'⟩, mem', same⟩ := List.mem_map.mp named
  obtain ⟨rfl, name⟩ := Prod.mk.inj same
  exact ⟨e', mem', name⟩

/-- What the cap leaves is all there was, or what has gone was finished, under a live card. -/
theorem Basis.Trims.mem_or_gone {p q : Basis} (trims : p.Trims q) (flagged : p.fork.Partitions p.store)
    {k : Key} {e : Entry} (mem : (k, e) ∈ p.store.entries) :
    (k, e) ∈ q.store.entries ∨
      p.fork = .live ∧ e.status.isFinished = true ∧ e.discarded = false := by
  rcases p.spared_or_over with spared | ⟨capped, exceeding, not_forked⟩
  · rw [(trims.spares spared).1]
    exact .inl mem
  · obtain ⟨gone, sublist, -, -, entries, -⟩ := trims.takes capped exceeding not_forked
    have live : p.fork = .live := by
      cases fork : p.fork with
      | live => rfl
      | below i => simp [fork, Fork.isForked] at not_forked
    by_cases taken : (k, e) ∈ gone
    · have finished : e.status.isFinished = true := by
        simpa using (List.mem_filter.mp (sublist.subset taken)).2
      exact .inr ⟨live, finished, flagged.discarded_of_live live mem⟩
    · rw [entries, List.mem_filter]
      exact .inl ⟨mem, by simpa using taken⟩

theorem IsPartitioned.keepsCap (holds : s.IsPartitioned) (asked : a.evicts = false) :
    s.KeepsCap a := by
  obtain ⟨enforced, elsewhere⟩ := holds.capPoint asked
  refine ⟨fun p point => (enforced p point).2, elsewhere, fun k e mem lost => ?_⟩
  cases point : s.capPoint? a with
  | none =>
      obtain ⟨e', mem', name⟩ := (elsewhere point).1.mem_entries mem
      exact absurd (congrArg Prod.snd name) (lost e' mem')
  | some p =>
      obtain ⟨flagged, ⟨new, -, gains⟩, trims⟩ := enforced p point
      obtain ⟨e', mem', name⟩ := gains.mem_entries mem
      rcases trims.mem_or_gone flagged mem' with left | ⟨live, finished, kept⟩
      · exact absurd (congrArg Prod.snd name) (lost e' left)
      · exact ⟨p, e', rfl, live, mem', name, finished, kept⟩

/-! ## Every run -/

/-- Every entry that was ever appended is there, or was counted when it went. -/
def Basis.Counted (b : Basis) : Prop :=
  b.store.nextSequence = b.store.size + b.counters.evicted

theorem Basis.Gains.size {b b' : Basis} {new : List (Key × CorrelationId × Nat)}
    (gains : b.Gains new b') (sound : b.store.Sound) (sound' : b'.store.Sound) :
    b'.store.size = b.store.size + new.length := by
  rw [← sound.length_names, ← sound'.length_names, gains.names, List.length_append]

theorem Basis.Gains.counted {b b' : Basis} {new : List (Key × CorrelationId × Nat)}
    (gains : b.Gains new b') (sound : b.store.Sound) (sound' : b'.store.Sound)
    (counted : b.Counted) : b'.Counted := by
  have size := gains.size sound sound'
  have next := gains.next
  have evicted := gains.evicted
  unfold Basis.Counted at counted ⊢
  omega

theorem Basis.Trims.counted {p q : Basis} (trims : p.Trims q) (sound : p.store.Sound)
    (sound' : q.store.Sound) (counted : p.Counted) : q.Counted := by
  have count := trims.count sound sound'
  have next := trims.next
  unfold Basis.Counted at counted ⊢
  omega

theorem IsPartitioned.perform (holds : s.IsPartitioned) (a : Action) : (s.perform a).IsPartitioned :=
  holds.run [a]

/-- An eviction that is asked for takes one entry out, or none. -/
theorem evict_counts (sound : s.store.Sound) (k : Key) :
    (s.evict k).2.fork = s.fork ∧ (s.evict k).2.historyCap = s.historyCap ∧
      (s.evict k).2.store.nextSequence = s.store.nextSequence ∧ (s.evict k).2.size ≤ s.size ∧
      (s.evict k).2.size + (s.evict k).2.counters.evicted = s.size + s.counters.evicted := by
  rcases evict_cases sound k with ⟨v, refused⟩ | ⟨e, p, -, -, -, -, at_p, evicted⟩
  · rw [refused]
    exact ⟨rfl, rfl, rfl, Nat.le_refl _, rfl⟩
  · have size := size_without at_p e.id
    rw [evicted]
    refine ⟨rfl, rfl, Store.nextSequence_without _ _ _ _, Nat.le_of_lt (Nat.lt_of_succ_le size.le), ?_⟩
    show (s.without k p e.id).size + (s.counters.evicted + 1) = _
    omega

/-- What one action does to the count and to the cap. -/
theorem IsPartitioned.counted (holds : s.IsPartitioned) (counted : s.basis.Counted) (a : Action) :
    (s.perform a).basis.Counted ∧ (s.perform a).historyCap = s.historyCap := by
  have sound' := (holds.perform a).sound
  cases evicts : a.evicts with
  | false =>
      obtain ⟨enforced, elsewhere⟩ := holds.capPoint evicts
      cases point : s.capPoint? a with
      | none =>
          have gains := (elsewhere point).1
          exact ⟨gains.counted holds.sound sound' counted, gains.historyCap⟩
      | some p =>
          obtain ⟨flagged, ⟨new, -, gains⟩, trims⟩ := enforced p point
          have counted' := gains.counted holds.sound flagged.sound counted
          exact ⟨trims.counted flagged.sound sound' counted', trims.historyCap.trans gains.historyCap⟩
  | true =>
      cases a with
      | evict k =>
          obtain ⟨-, historyCap, next, -, count⟩ := evict_counts holds.sound k
          refine ⟨?_, historyCap⟩
          have counted : s.store.nextSequence = s.size + s.counters.evicted := counted
          show (s.evict k).2.store.nextSequence = (s.evict k).2.size + (s.evict k).2.counters.evicted
          omega
      | _ => exact absurd evicts (by simp [Action.evicts])

theorem counted_run (c : Config) (actions : List Action) :
    ((start c).run actions).basis.Counted ∧ ((start c).run actions).historyCap = c.historyCap := by
  have both : ((start c).run actions).IsPartitioned ∧ ((start c).run actions).basis.Counted ∧
      ((start c).run actions).historyCap = c.historyCap := by
    refine run_induct (motive := fun s => s.IsPartitioned ∧ s.basis.Counted ∧
      s.historyCap = c.historyCap) ⟨isPartitioned_start c, rfl, rfl⟩ actions ?_
    rintro s a - ⟨holds, counted, same⟩
    obtain ⟨counted', same'⟩ := holds.counted counted a
    exact ⟨holds.perform a, counted', same'.trans same⟩
  exact both.2

/-- An action that ends under a live card has enforced the cap, or the card was live before. -/
theorem IsPartitioned.bound (holds : s.IsPartitioned) (capped : s.historyCap ≠ 0) (a : Action)
    (live : (s.perform a).fork = .live) :
    (s.perform a).size ≤ max s.historyCap (s.perform a).store.unfinished ∨
      s.fork = .live ∧ (s.perform a).size ≤ s.size := by
  have sound' := (holds.perform a).sound
  cases evicts : a.evicts with
  | false =>
      obtain ⟨enforced, elsewhere⟩ := holds.capPoint evicts
      cases point : s.capPoint? a with
      | none =>
          obtain ⟨gains, stays⟩ := elsewhere point
          refine .inr ⟨?_, (gains.size holds.sound sound').le⟩
          cases fork : s.fork with
          | live => rfl
          | below i =>
              have forked := stays (by rw [fork]; rfl)
              rw [live] at forked
              exact absurd forked (by simp [Fork.isForked])
      | some p =>
          obtain ⟨flagged, ⟨new, -, gains⟩, trims⟩ := enforced p point
          have same : p.historyCap = s.historyCap := gains.historyCap
          have bound := trims.bound flagged.sound sound' (same ▸ capped) (trims.fork.symm.trans live)
          exact .inl (same ▸ bound)
  | true =>
      cases a with
      | evict k =>
          obtain ⟨fork, -, -, le, -⟩ := evict_counts holds.sound k
          exact .inr ⟨fork.symm.trans live, le⟩
      | _ => exact absurd evicts (by simp [Action.evicts])

theorem bound_run (c : Config) (capped : c.historyCap ≠ 0) (actions : List Action)
    (live : ((start c).run actions).fork = .live) :
    ∃ before, before <+: actions ∧
      ((start c).run actions).size ≤
        max c.historyCap ((start c).run before).store.unfinished := by
  induction actions using List.reverseRecOn with
  | nil => exact ⟨[], List.prefix_refl _, Nat.zero_le _⟩
  | append_singleton actions a ih =>
      have holds := (isPartitioned_start c).run actions
      have same := (counted_run c actions).2
      rw [run_append] at live ⊢
      rcases holds.bound (same ▸ capped) a live with bound | ⟨was_live, le⟩
      · refine ⟨actions ++ [a], List.prefix_refl _, ?_⟩
        rw [run_append]
        exact same ▸ bound
      · obtain ⟨before, is_before, bound⟩ := ih was_live
        exact ⟨before, is_before.trans (List.prefix_append _ _), Nat.le_trans le bound⟩

/-- In every state that is reached the cap is kept by whatever is done next, short of an eviction that
is asked for; every entry is accounted for; and under a live card there are not more entries than the
cap allows, or than were unfinished at one time. -/
theorem historyCap_run (c : Config) (actions : List Action) :
    (∀ a, a.evicts = false → ((start c).run actions).KeepsCap a) ∧
    ((start c).run actions).store.nextSequence =
      ((start c).run actions).size + ((start c).run actions).counters.evicted ∧
    (((start c).run actions).fork = .live → c.historyCap ≠ 0 →
      ∃ before, before <+: actions ∧
        ((start c).run actions).size ≤
          max c.historyCap ((start c).run before).store.unfinished) := by
  refine ⟨fun a asked => ?_, (counted_run c actions).1, fun live capped => ?_⟩
  · exact ((isPartitioned_start c).run actions).keepsCap asked
  · exact bound_run c capped actions live

end Session

end Chronicle
