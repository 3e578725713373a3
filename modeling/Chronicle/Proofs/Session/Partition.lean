import Chronicle.Proofs.Session.Moves
import Chronicle.Report

/-!
# The fork and the flags

A fork is a position, while the entries that it discards are flagged one by one; nothing in the data
keeps the two together.  `forkAgrees_run` says that every run of actions does: the entries after the
fork are the discarded ones, and the fork stays on the entry it was put on until it is moved.

The invariant is `Fork.Partitions`.  It survives because nothing is evicted while a fork is in progress,
and because a new entry lands after the fork and is flagged at once.
-/

namespace Chronicle

/-- The flags of a sound store are as the fork says, and the fork is on an entry. -/
structure Fork.Partitions (f : Fork) (s : Store) : Prop where
  sound : s.Sound
  flags : s.flags = (List.range s.size).map f.discards
  inside : ∀ i, f = .below i → i < s.size

namespace Fork

variable {f : Fork} {s : Store}

theorem Partitions.edit (holds : f.Partitions s) (k : Key) {g : Edit} (keep : g.KeepsFlag) :
    f.Partitions (s.update k g.run) where
  sound := holds.sound.edit k g
  flags := (s.flags_update k keep).trans holds.flags
  inside := holds.inside

theorem Partitions.releaseLease (holds : f.Partitions s) (k : Key) :
    f.Partitions (s.releaseLease k) where
  sound := holds.sound.releaseLease k
  flags := (s.flags_releaseLease k).trans holds.flags
  inside := holds.inside

/-- Whatever the flags were, they are set anew. -/
theorem Partitions.partition (sound : s.Sound) (inside : ∀ i, f = .below i → i < s.size) :
    f.Partitions (f.partition s) where
  sound := sound.partition f
  flags := by rw [size_partition, Fork.partition, sound.flags_discardWhere]
  inside i below := by rw [size_partition]; exact inside i below

/-- A new entry is discarded exactly if a fork is in progress: it lands after it. -/
theorem Partitions.discards_size (holds : f.Partitions s) : f.discards s.size = f.isForked := by
  cases f with
  | live => rfl
  | below i => exact decide_eq_true (holds.inside i rfl)

theorem Partitions.append (holds : f.Partitions s) (id : CorrelationId) (kind : Kind)
    (status : Status) (now : Instant) :
    f.Partitions (f.markAppended (s.append id kind status now).2 (s.append id kind status now).1) := by
  have sound := holds.sound.append id kind status now
  have size := s.size_append id kind status now
  have flags : (List.range (s.size + 1)).map f.discards = s.flags ++ [f.isForked] := by
    rw [List.range_succ, List.map_append, ← holds.flags, List.map_singleton, holds.discards_size]
  refine ⟨sound.markAppended f _, ?_, fun i below => ?_⟩
  · rw [size_markAppended, size, flags]
    rw [markAppended]
    split
    · next forked =>
        rw [forked]
        exact holds.sound.flags_append_update id kind status now true
    · next live => rw [holds.sound.flags_append, Bool.eq_false_iff.mpr live]
  · rw [size_markAppended, size]
    exact Nat.lt_succ_of_lt (holds.inside i below)

theorem flags_live (n : Nat) : (List.range n).map Fork.live.discards = List.replicate n false := by
  rw [show Fork.live.discards = fun _ => false from rfl, List.map_const', List.length_range]

/-- Where nothing is discarded, an entry can be taken out. -/
theorem Partitions.without (holds : Partitions .live s) {k : Key} {p : Nat}
    (at_p : s.keyAt? p = some k) (id : CorrelationId) : Partitions .live (s.without k p id) where
  sound := holds.sound.without at_p id
  flags := by
    have size := Store.size_without at_p id
    have lt : p < s.size := (List.getElem?_eq_some_iff.mp at_p).1
    rw [holds.sound.flags_without at_p, holds.flags, flags_live, flags_live,
      List.eraseIdx_replicate, if_pos lt, ← size, Nat.add_sub_cancel]
  inside i below := absurd below (by simp)

end Fork

namespace Session

variable {s s' : Session}

/-- The invariant of a session. -/
abbrev IsPartitioned (s : Session) : Prop := s.fork.Partitions s.store

theorem isPartitioned_start (c : Config) : (start c).IsPartitioned where
  sound := .empty c.retiredIds
  flags := rfl
  inside i below := absurd below (by simp [start])

theorem IsPartitioned.evict (holds : s.IsPartitioned) (k : Key) : (s.evict k).2.IsPartitioned := by
  rcases evict_cases holds.sound k with ⟨v, refused⟩ | ⟨e, p, live, -, -, -, at_p, evicted⟩
  · rw [refused]
    exact holds
  · have same : s.fork = .live := by
      cases f : s.fork with
      | live => rfl
      | below i => simp [f, Fork.isForked] at live
    rw [evicted]
    unfold IsPartitioned at holds ⊢
    rw [same] at holds
    exact same ▸ holds.without at_p e.id

theorem IsPartitioned.enforceHistoryCap (holds : s.IsPartitioned) :
    s.enforceHistoryCap.2.IsPartitioned := by
  have all : (s.evictAll s.victims).2.IsPartitioned :=
    evictAll_induct (motive := IsPartitioned) holds (fun s k holds => holds.evict k) _
  rcases enforceHistoryCap_cases s with same | ⟨-, ⟨-, same⟩ | ⟨-, same⟩⟩
  · rw [same]
    exact holds
  · rw [same]
    exact all
  · rw [same]
    exact all

theorem IsPartitioned.step (holds : s.IsPartitioned) (step : Step s s') : s'.IsPartitioned := by
  cases step with
  | aside store fork viewport =>
      rw [IsPartitioned]
      rw [store, fork]
      exact holds
  | window f keeps => exact holds
  | edit k f keep => exact Fork.Partitions.edit holds k keep
  | releaseLease k => exact Fork.Partitions.releaseLease holds k
  | append id kind status now => exact Fork.Partitions.append holds id kind status now
  | trim => exact holds.enforceHistoryCap

theorem IsPartitioned.move (holds : s.IsPartitioned) (move : Move s s') : s'.IsPartitioned := by
  cases move with
  | step step => exact holds.step step
  | turn f inside => exact Fork.Partitions.partition holds.sound inside

theorem IsPartitioned.run (holds : s.IsPartitioned) (actions : List Action) :
    (s.run actions).IsPartitioned := by
  refine run_induct holds actions fun s a _ holds => ?_
  exact perform_preserves holds a (fun _ _ move holds => holds.move move) fun k _ => holds.evict k

/-! ## What the invariant says -/

theorem IsPartitioned.discarded_eq (holds : s.IsPartitioned) {p : Nat} {e : Entry}
    (at_p : s.store.entryAt? p = some e) : e.discarded = s.fork.discards p := by
  have flag := holds.sound.getElem?_flags p
  rw [holds.flags, at_p, List.getElem?_map, Option.map_some] at flag
  obtain ⟨q, at_q, same⟩ := Option.map_eq_some_iff.mp flag
  obtain ⟨lt, rfl⟩ := List.getElem?_eq_some_iff.mp at_q
  rw [← same, List.getElem_range]

theorem countP_after (i n : Nat) :
    (List.range n).countP (fun p => decide (i < p)) = n - (i + 1) := by
  induction n with
  | zero => simp
  | succ n ih =>
      rw [List.range_succ, List.countP_append, ih, List.countP_singleton]
      by_cases after : i < n
      · simp only [after, decide_true, if_pos]
        omega
      · simp only [after, decide_false, Bool.false_eq_true, if_false]
        omega

/-- The number that is shown is the number of entries that are flagged. -/
theorem IsPartitioned.discarded_forkView (holds : s.IsPartitioned) :
    s.forkView.discarded = (s.store.entries.filter fun ke => ke.2.discarded).length := by
  have flagged : (s.store.entries.filter fun ke => ke.2.discarded).length =
      ((List.range s.size).map s.fork.discards).count true := by
    rw [size, ← holds.flags, Store.flags, List.count_eq_countP, List.countP_map,
      ← List.countP_eq_length_filter]
    exact List.countP_congr fun ke _ => by simp
  rw [flagged]
  rw [forkView]
  cases s.fork with
  | live =>
      rw [Fork.flags_live, List.count_replicate]
      rfl
  | below i =>
      show s.size - (i + 1) = _
      rw [List.count_eq_countP, List.countP_map, ← countP_after i s.size]
      exact List.countP_congr fun p _ => by simp [Fork.discards]

/-! ## Between two moves of the card -/

/-- The fork stays where it is, and if one is in progress, entries are appended and none is taken
out. -/
structure Stays (s s' : Session) : Prop where
  fork : s'.fork = s.fork
  names : s.fork.isForked = true → s.store.names <+: s'.store.names

theorem Stays.refl (s : Session) : Stays s s := ⟨rfl, fun _ => List.prefix_refl _⟩

theorem Stays.of_names (fork : s'.fork = s.fork) (names : s'.store.names = s.store.names) :
    Stays s s' :=
  ⟨fork, fun _ => names ▸ List.prefix_refl _⟩

theorem Stays.trans {s₁ s₂ s₃ : Session} (first : Stays s₁ s₂) (rest : Stays s₂ s₃) :
    Stays s₁ s₃ :=
  ⟨rest.fork.trans first.fork,
    fun forked => (first.names forked).trans (rest.names (first.fork ▸ forked))⟩

theorem enforceHistoryCap_of_forked (forked : s.fork.isForked = true) :
    s.enforceHistoryCap.2 = s := by
  rcases enforceHistoryCap_cases s with same | ⟨exceeds, -⟩
  · rw [same]
  · simp [exceedsCap, forked] at exceeds

theorem IsPartitioned.stays_step (holds : s.IsPartitioned) (step : Step s s') : Stays s s' := by
  cases step with
  | aside store fork viewport => exact .of_names fork (by rw [store])
  | window f keeps => exact .of_names rfl rfl
  | edit k f keep => exact .of_names rfl (s.store.names_update k f)
  | releaseLease k => exact .of_names rfl (s.store.names_releaseLease k)
  | append id kind status now =>
      refine ⟨rfl, fun _ => ?_⟩
      have names := Fork.names_markAppended s.fork (s.store.append id kind status now).2
        (s.store.append id kind status now).1
      rw [holds.sound.names_append] at names
      exact ⟨_, names.symm⟩
  | trim =>
      obtain ⟨store, tokens, evicted, viewport, search, same⟩ := enforceHistoryCap_frame s
      refine ⟨by rw [same], fun forked => ?_⟩
      exact (enforceHistoryCap_of_forked forked).symm ▸ List.prefix_refl _

theorem IsPartitioned.stays_steps (holds : s.IsPartitioned) (steps : Steps s s') : Stays s s' := by
  refine (preserves_of_step (motive := fun s' => s'.IsPartitioned ∧ Stays s s') ⟨holds, .refl s⟩
    steps ?_).2
  rintro s₁ s₂ step ⟨holds, stays⟩
  exact ⟨holds.step step, stays.trans (holds.stays_step step)⟩

theorem stays_evict (s : Session) (k : Key) : Stays s (s.evict k).2 := by
  obtain ⟨store, tokens, evicted, same⟩ := evict_frame s k
  refine ⟨by rw [same], fun forked => ?_⟩
  have refused : s.evict k = (.error .forkPinned, s) := by simp [evict, forked]
  exact refused.symm ▸ List.prefix_refl _

theorem IsPartitioned.stays_run (holds : s.IsPartitioned) (actions : List Action)
    (stays : ∀ a ∈ actions, a.movesFork = false) : Stays s (s.run actions) := by
  let both (s' : Session) : Prop := s'.IsPartitioned ∧ Stays s s'
  have both : both (s.run actions) := by
    refine run_induct ⟨holds, .refl s⟩ actions ?_
    intro s' a mem ih
    refine perform_preserves_of_stays (motive := both) ih (stays a mem) ?_ fun k _ => ?_
    · intro s₁ s₂ step ⟨holds, stays⟩
      exact ⟨holds.step step, stays.trans (holds.stays_step step)⟩
    · exact ⟨ih.1.evict k, ih.2.trans (stays_evict s' k)⟩
  exact both.2

/-- What stood at a position while a fork was in progress stands there still. -/
theorem Stays.entryAt? (holds : s.IsPartitioned) (holds' : s'.IsPartitioned) (stays : Stays s s')
    {i : Nat} (below : s.fork = .below i) :
    s'.store.keyAt? i = s.store.keyAt? i ∧
      (s'.store.entryAt? i).map Entry.name = (s.store.entryAt? i).map Entry.name := by
  obtain ⟨rest, names⟩ := stays.names (by rw [below]; rfl)
  obtain ⟨k, at_i⟩ : ∃ k, s.store.keyAt? i = some k :=
    ⟨_, List.getElem?_eq_getElem (holds.inside i below)⟩
  obtain ⟨e, found⟩ := (holds.sound.live k).mpr (List.mem_of_getElem? at_i)
  have named := holds.sound.getElem?_names.mpr ⟨at_i, e, found, rfl⟩
  have named' : s'.store.names[i]? = some (k, e.name) := by
    rw [← names, List.getElem?_append_left (List.getElem?_eq_some_iff.mp named).1]
    exact named
  obtain ⟨at_i', e', found', same⟩ := holds'.sound.getElem?_names.mp named'
  refine ⟨at_i'.trans at_i.symm, ?_⟩
  rw [Store.entryAt?_of_keyAt? at_i, Store.entryAt?_of_keyAt? at_i', found, found',
    Option.map_some, Option.map_some, same]

/-! ## Every run -/

/-- The fork and the entries agree, and go on agreeing until the card is moved. -/
structure ForkAgrees (s : Session) : Prop where
  live : s.fork = .live → ∀ ke ∈ s.store.entries, ke.2.discarded = false
  below : ∀ i, s.fork = .below i → i < s.size ∧
    ∀ p e, s.store.entryAt? p = some e → (e.discarded = true ↔ i < p)
  /-- The report counts the entries that are flagged. -/
  reported : ∀ now, (s.report now).fork.discarded =
    (s.store.entries.filter fun ke => ke.2.discarded).length
  /-- Whatever is done that does not move the card, the fork stays on its entry. -/
  stays : ∀ actions : List Action, (∀ a ∈ actions, a.movesFork = false) →
    (s.run actions).fork = s.fork ∧
    ∀ i, s.fork = .below i → (s.run actions).store.keyAt? i = s.store.keyAt? i ∧
      ((s.run actions).store.entryAt? i).map Entry.name = (s.store.entryAt? i).map Entry.name

theorem forkAgrees_run (c : Config) (actions : List Action) :
    ((start c).run actions).ForkAgrees := by
  have holds := (isPartitioned_start c).run actions
  generalize (start c).run actions = s at holds
  refine ⟨?_, ?_, fun now => holds.discarded_forkView, ?_⟩
  · rintro live ⟨k, e⟩ mem
    obtain ⟨p, at_p⟩ := List.getElem?_of_mem mem
    have at_p : s.store.entryAt? p = some e := by rw [holds.sound.entryAt?_eq, at_p]; rfl
    rw [holds.discarded_eq at_p, live]
    rfl
  · intro i below
    refine ⟨holds.inside i below, fun p e at_p => ?_⟩
    rw [holds.discarded_eq at_p, below]
    exact decide_eq_true_iff
  · intro later quiet
    have stays := holds.stays_run later quiet
    exact ⟨stays.fork, fun i below => stays.entryAt? holds (holds.run later) below⟩

end Session

end Chronicle
