import Chronicle.Proofs.Session.HistoryCap
import Chronicle.Proofs.Session.Window

/-!
# What a fork discards

A fork is there to discard something; where nothing is to be discarded, the session is live.  The two
moves that can put the card below the last entry turn the session live instead (`Fork.belowOrLive`).  A
move up cannot: a step up from an entry ends above it.  But the card may stand above the window, and
then a move up takes it down, to the first entry of the window.  In a window of one row that is at the
end of the timeline, this is the last entry.

`discardsSome_run_iff` says that there is no other way: in every run some fork discards nothing exactly
if somewhere in it a move up overshoots like this.
-/

namespace Chronicle

/-- A step up ends above the last entry, unless it comes from above a window that shows nothing but
the last entry. -/
theorem Viewport.Fits.step_up_above_last {v : Viewport} {len : Nat} (fits : v.Fits len)
    (several : 2 ≤ len) {current : Nat} (inside : current < len) :
    (v.visible len).step .up current (len - 1) + 1 < len ↔
      ¬ (current < v.offset ∧ v.offset + 1 = len) := by
  have bound := fits.offset_le
  have rows_pos := fits.rows_pos
  unfold Viewport.maxOffset at bound
  have start : (v.visible len).start = v.offset := by
    simp only [Viewport.visible]
    omega
  have stop : (v.visible len).stop = min (v.offset + v.rows) len := rfl
  have nonempty : ¬ (v.visible len).isEmpty = true := by
    simp only [Span.isEmpty, decide_eq_true_eq]
    omega
  unfold Span.step
  rw [if_neg nonempty, start, stop]
  split
  · omega
  · split
    · omega
    · simp only
      omega

namespace Session

variable {s s' : Session} {a : Action}

/-- With two entries or more, a fork has one below its card. -/
def DiscardsSome (s : Session) : Prop :=
  ∀ i, s.fork = .below i → 2 ≤ s.size → i + 1 < s.size

/-- The card is moved up. -/
def Action.IsMoveUp (a : Action) : Prop :=
  a = .moveForkUp ∨ ∃ now, a = .handle (.command .moveForkUp) now

/-- The card is moved up, and it stands above a window that shows nothing but the last entry. -/
def Overshoots (s : Session) (a : Action) : Prop :=
  a.IsMoveUp ∧
    ∃ i, s.fork = .below i ∧ i < s.viewport.offset ∧ s.viewport.offset + 1 = s.size

theorem discardsSome_of_live (live : s.fork = .live) : s.DiscardsSome := by
  intro i below
  exact absurd (live.symm.trans below) (by simp)

/-! ## While the card is not moved -/

/-- Entries that come after a fork has been made lie below its card. -/
theorem DiscardsSome.of_stays (some : s.DiscardsSome) (holds : s.IsPartitioned)
    (holds' : s'.IsPartitioned) (stays : Stays s s') : s'.DiscardsSome := by
  intro i below several
  have was : s.fork = .below i := stays.fork.symm.trans below
  have grown := (stays.names (by rw [was]; rfl)).length_le
  rw [holds.sound.length_names, holds'.sound.length_names] at grown
  have inside : i < s.size := holds.inside i was
  by_cases already : 2 ≤ s.size
  · exact Nat.lt_of_lt_of_le (some i was already) grown
  · unfold size at *
    omega

theorem fork_resolveFork (s : Session) : s.resolveFork.fork = .live := by
  rw [resolveFork]
  cases fork : s.fork with
  | live => exact fork
  | below i => rfl

/-- An action that does not move the card leaves it where it is, or takes an instruction in, which ends
the fork. -/
theorem IsPartitioned.stays_or_live (holds : s.IsPartitioned) (keeps : a.evicts = false)
    (unmoved : s.cardMove? a = none) : Stays s (s.perform a) ∨ (s.perform a).fork = .live := by
  cases bears s a with
  | intake s₁ m now taken left =>
      have stays := (holds.intake taken).stays_steps (ingest_steps s₁ m now)
      have fork : (s.perform a).fork = (s₁.ingest m now).2.fork := congrArg Basis.fork left
      have store : (s.perform a).store = (s₁.ingest m now).2.store := congrArg Basis.store left
      rcases intake?_cases taken with ⟨-, -, rfl⟩ | ⟨draft, text, rfl, -⟩
      · exact .inl ⟨fork.trans stays.fork, fun forked => store ▸ stays.names forked⟩
      · exact .inr (fork.trans (stays.fork.trans (fork_resolveFork { s with draft })))
  | card r other moved left => exact absurd (unmoved.symm.trans moved) (by simp)
  | trim is =>
      subst is
      exact .inl (holds.stays_step (.trim s))
  | evict k is =>
      subst is
      exact absurd keeps (by simp [Action.evicts])
  | connection free other unmoved connection reconnects left =>
      exact .inl (.of_names (congrArg Basis.fork left) (congrArg (·.store.names) left))
  | aside other unmoved left =>
      exact .inl (.of_names (congrArg Basis.fork left) (congrArg (·.store.names) left))

/-! ## Moves of the card -/

/-- The card is where it has been put. -/
theorem fork_applyFork (s : Session) (f : Fork) (store : Store) :
    (s.applyFork (.ok f, store)).2.fork = f := by
  cases f with
  | live =>
      obtain ⟨store', tokens, evicted, viewport, search, same⟩ := enforceHistoryCap_frame
        (({ s with fork := .live, store } : Session).moveWindow Viewport.scrollToEnd)
      show (enforceHistoryCap _).2.fork = .live
      rw [same]
      rfl
  | below j => rfl

/-- If that is below an entry, there are as many entries as before. -/
theorem applyFork_below {f : Fork} {store : Store} {i : Nat}
    (below : (s.applyFork (.ok f, store)).2.fork = .below i) :
    f = .below i ∧ (s.applyFork (.ok f, store)).2.size = store.size := by
  have put : f = .below i := (fork_applyFork s f store).symm.trans below
  subst put
  exact ⟨rfl, rfl⟩

theorem discardsSome_applyFork_belowOrLive (s : Session) (position : Nat) :
    (s.applyFork (.ok (Fork.belowOrLive position s.size),
      (Fork.belowOrLive position s.size).partition s.store)).2.DiscardsSome := by
  intro i below _
  obtain ⟨is, size⟩ := applyFork_below below
  rw [size, Fork.size_partition]
  exact Fork.belowOrLive_discards is

theorem DiscardsSome.moveForkDown (some : s.DiscardsSome) : s.moveForkDown.2.DiscardsSome := by
  unfold Session.moveForkDown Fork.moveDown
  split
  · exact some
  · split
    · intro i below
      exact absurd (applyFork_below below).1 (by simp)
    · exact discardsSome_applyFork_belowOrLive s _

theorem DiscardsSome.forkAt (some : s.DiscardsSome) (position : Nat) :
    (s.forkAt position).2.DiscardsSome := by
  unfold Session.forkAt Fork.moveTo
  split
  · exact some
  · exact discardsSome_applyFork_belowOrLive s position

theorem DiscardsSome.forkAtRow (some : s.DiscardsSome) (row : Nat) (now : Instant) :
    (s.forkAtRow row now).2.DiscardsSome := by
  rw [Session.forkAtRow]
  split
  · exact some.forkAt _
  · exact some

theorem DiscardsSome.cancelFork (some : s.DiscardsSome) : s.cancelFork.DiscardsSome := by
  rcases cancelFork_cases s with ⟨-, same⟩ | ⟨-, same⟩
  · rw [same]
    intro i below
    exact absurd (applyFork_below below).1 (by simp)
  · rw [same]
    exact some

theorem discardsSome_applyFork_below (s : Session) (j : Nat) :
    (s.applyFork (.ok (.below j), (Fork.below j).partition s.store)).2.DiscardsSome ↔
      (2 ≤ s.size → j + 1 < s.size) := by
  have size : (s.applyFork (.ok (.below j), (Fork.below j).partition s.store)).2.size = s.size :=
    Fork.size_partition _ _
  unfold DiscardsSome
  rw [size]
  constructor
  · intro some
    exact some j rfl
  · intro some i below
    obtain rfl := Fork.below.inj (applyFork_below below).1
    exact some

/-- The position that a move up starts from. -/
def cardAt (s : Session) : Nat := s.fork.position?.getD (s.size - 1)

theorem moveForkUp_eq (nonempty : s.size ≠ 0) :
    s.moveForkUp.2 = (s.applyFork (.ok (.below (s.visible.step .up s.cardAt (s.size - 1))),
      (Fork.below (s.visible.step .up s.cardAt (s.size - 1))).partition s.store)).2 := by
  have moved : s.fork.moveUp s.store s.visible =
      (.ok (.below (s.visible.step .up s.cardAt (s.size - 1))),
        (Fork.below (s.visible.step .up s.cardAt (s.size - 1))).partition s.store) := by
    rw [Fork.moveUp]
    exact if_neg nonempty
  rw [moveForkUp, moved]

theorem IsPartitioned.cardAt_lt (holds : s.IsPartitioned) (nonempty : s.size ≠ 0) :
    s.cardAt < s.size := by
  unfold cardAt
  cases fork : s.fork with
  | live => exact Nat.sub_one_lt nonempty
  | below i => exact holds.inside i fork

/-- The card of a session that is live is not above the window. -/
theorem IsFramed.cardAt_above_iff (framed : s.IsFramed) :
    (s.cardAt < s.viewport.offset ∧ s.viewport.offset + 1 = s.size) ↔
      ∃ i, s.fork = .below i ∧ i < s.viewport.offset ∧ s.viewport.offset + 1 = s.size := by
  have bound := framed.fits.offset_le
  have rows_pos := framed.fits.rows_pos
  unfold Viewport.maxOffset at bound
  unfold cardAt
  cases fork : s.fork with
  | live =>
      constructor
      · rintro ⟨above, last⟩
        simp only [Fork.position?, Option.getD_none] at above
        omega
      · rintro ⟨i, below, -⟩
        exact absurd below (by simp)
  | below i =>
      constructor
      · intro above
        exact ⟨i, rfl, above⟩
      · rintro ⟨j, below, above⟩
        obtain rfl := Fork.below.inj below
        exact above

/-- A move up puts the card above the last entry, unless the card was above a window that shows nothing
but that entry. -/
theorem IsPartitioned.discardsSome_moveForkUp_iff (holds : s.IsPartitioned) (framed : s.IsFramed) :
    s.moveForkUp.2.DiscardsSome ↔
      ¬ ∃ i, s.fork = .below i ∧ i < s.viewport.offset ∧ s.viewport.offset + 1 = s.size := by
  rw [← framed.cardAt_above_iff]
  have bound := framed.fits.offset_le
  have rows_pos := framed.fits.rows_pos
  unfold Viewport.maxOffset at bound
  by_cases empty : s.size = 0
  · have refused : s.fork.moveUp s.store s.visible = (.error .emptyTimeline, s.store) := by
      rw [Fork.moveUp]
      exact if_pos empty
    rw [moveForkUp, refused]
    constructor
    · intro _ above
      omega
    · intro _ i _ several
      exact absurd several (show ¬ 2 ≤ s.size by omega)
  · rw [moveForkUp_eq empty, discardsSome_applyFork_below]
    by_cases several : 2 ≤ s.size
    · rw [visible, framed.fits.step_up_above_last several (holds.cardAt_lt empty)]
      exact ⟨fun some => some several, fun some _ => some⟩
    · constructor
      · intro _ above
        omega
      · intro _ many
        exact absurd many several

/-! ## Actions -/

/-- The moves of the card other than up. -/
theorem DiscardsSome.of_cardMove (some : s.DiscardsSome) {r : Except ForkError Fork × Store}
    (moved : s.cardMove? a = .some r) (other : ¬ a.IsMoveUp) : (s.perform a).DiscardsSome := by
  unfold cardMove? at moved
  split at moved
  · exact absurd (.inl rfl) other
  · next now => exact absurd (.inr ⟨now, rfl⟩) other
  · exact some.moveForkDown
  · exact some.moveForkDown
  · next position => exact some.forkAt position
  · next position now => exact some.forkAt position
  · next row now => exact some.forkAtRow row now
  · exact some.cancelFork
  · exact some.cancelFork
  · exact absurd moved (by simp)

/-- Where forks discard something, they do after an action as well, unless it overshoots. -/
theorem DiscardsSome.perform_iff (some : s.DiscardsSome) (holds : s.IsPartitioned)
    (framed : s.IsFramed) (keeps : a.evicts = false) :
    (s.perform a).DiscardsSome ↔ ¬ s.Overshoots a := by
  by_cases up : a.IsMoveUp
  · have moved : s.perform a = s.moveForkUp.2 := by
      rcases up with rfl | ⟨now, rfl⟩
      · rfl
      · rfl
    rw [moved, holds.discardsSome_moveForkUp_iff framed, Overshoots, and_iff_right up]
  · have kept : (s.perform a).DiscardsSome := by
      cases unmoved : s.cardMove? a with
      | none =>
          rcases holds.stays_or_live keeps unmoved with stays | live
          · exact some.of_stays holds (holds.run [a]) stays
          · exact discardsSome_of_live live
      | some r => exact some.of_cardMove unmoved up
    exact iff_of_true kept fun overshoots => up overshoots.1

/-! ## Runs -/

/-- In every state of a run the fork discards something, exactly if no move up in it overshoots. -/
theorem discardsSome_run_iff (c : Config) (actions : List Action)
    (keeps : ∀ a ∈ actions, a.evicts = false) :
    (∀ before, before <+: actions → ((start c).run before).DiscardsSome) ↔
      ∀ before a, before ++ [a] <+: actions → ¬ ((start c).run before).Overshoots a := by
  have step : ∀ before a, before ++ [a] <+: actions → ((start c).run before).DiscardsSome →
      (((start c).run (before ++ [a])).DiscardsSome ↔ ¬ ((start c).run before).Overshoots a) := by
    intro before a part some
    have keeps' : ∀ b ∈ before ++ [a], b.evicts = false := fun b mem => keeps b (part.subset mem)
    have framed := (isFramed_start c).run before fun b mem => keeps' b (List.mem_append_left _ mem)
    rw [run_append]
    exact some.perform_iff ((isPartitioned_start c).run before) framed (keeps' a (by simp))
  constructor
  · intro all before a part
    exact (step before a part (all before ((List.prefix_append _ _).trans part))).mp (all _ part)
  · intro none before part
    induction before using List.reverseRecOn with
    | nil => exact discardsSome_of_live rfl
    | append_singleton before a ih =>
        exact (step before a part (ih ((List.prefix_append _ _).trans part))).mpr (none before a part)

/-- Two files are read, and the card is moved up. -/
def cardRaised : List Action :=
  [.handle (.fileRead (.producer "a") "a" []) 0, .handle (.fileRead (.producer "b") "b" []) 0,
    .handle (.command .moveForkUp) 0]

theorem discardsSome_run_cardRaised :
    (∀ a ∈ cardRaised, a.evicts = false) ∧ ((start .standard).run cardRaised).fork = .below 0 ∧
      ((∀ before, before <+: cardRaised → ((start .standard).run before).DiscardsSome) ↔
        ∀ before a, before ++ [a] <+: cardRaised →
          ¬ ((start .standard).run before).Overshoots a) := by
  have keeps : ∀ a ∈ cardRaised, a.evicts = false := by simp [cardRaised, Action.evicts]
  exact ⟨keeps, by decide +kernel, discardsSome_run_iff .standard cardRaised keeps⟩

/-- Two files are read in a window of one row.  A fork is made below the first, the window goes to the
end, and the card is moved up. -/
def cardBroughtIn : List Action :=
  [.handle (.command (.resize 1)) 0, .handle (.fileRead (.producer "a") "a" []) 0,
    .handle (.fileRead (.producer "b") "b" []) 0, .handle (.command (.forkAt 0)) 0,
    .handle (.command .scrollToEnd) 0, .handle (.command .moveForkUp) 0]

/-- The move up puts the card below the last entry: the session is forked, and nothing is discarded. -/
theorem not_discardsSome_cardBroughtIn :
    ((start .standard).run cardBroughtIn).size = 2 ∧
      ((start .standard).run cardBroughtIn).fork = .below 1 ∧
      ¬ ((start .standard).run cardBroughtIn).DiscardsSome := by
  have size : ((start .standard).run cardBroughtIn).size = 2 := by decide +kernel
  have below : ((start .standard).run cardBroughtIn).fork = .below 1 := by decide +kernel
  refine ⟨size, below, fun some => ?_⟩
  have inside := some 1 below (Nat.le_of_eq size.symm)
  rw [size] at inside
  exact absurd inside (by decide)

end Session

end Chronicle
