import Chronicle.Fork
import Chronicle.Proofs.Store.Flags

/-!
# What a fork does to a store

Flagging an entry that was appended while forked, and flagging all of them as a fork says, change the
flags and nothing else: `markAppended` and `partition` keep the names, the number of entries and the
invariant of the store.  `Fork.Moved` lists what a move of the card can come to.
-/

namespace Chronicle

namespace Fork

variable (f : Fork) (s : Store) (k : Key)

@[simp]
theorem names_markAppended : (f.markAppended s k).names = s.names := by
  rw [markAppended]
  split
  · exact s.names_update k (Edit.setDiscarded true)
  · rfl

@[simp]
theorem size_markAppended : (f.markAppended s k).size = s.size := by
  rw [markAppended]
  split
  · rfl
  · rfl

theorem markAppended_frame : ∃ slots, f.markAppended s k = { s with slots } := by
  rw [markAppended]
  split
  · exact ⟨_, rfl⟩
  · exact ⟨s.slots, rfl⟩

theorem partition_frame : ∃ slots, f.partition s = { s with slots } :=
  Store.flagEach_frame f.discards s.order.zipIdx s

@[simp]
theorem names_partition : (f.partition s).names = s.names := s.names_discardWhere f.discards

@[simp]
theorem size_partition : (f.partition s).size = s.size := s.size_discardWhere f.discards

theorem nextSequence_partition : (f.partition s).nextSequence = s.nextSequence := by
  obtain ⟨slots, same⟩ := f.partition_frame s
  rw [same]

/-! ## Moving the card -/

/-- What a move of the card can come to. -/
inductive Moved (f : Fork) (s : Store) : Except ForkError Fork × Store → Prop where
  | empty : Moved f s (.error .emptyTimeline, s)
  /-- The card is put somewhere, and every entry is flagged for it. -/
  | turned (f' : Fork) : Moved f s (.ok f', f'.partition s)
  /-- A live card is told to go down. -/
  | stays (live : f = .live) : Moved f s (.ok .live, s)

theorem moveUp_moved (visible : Span) : f.Moved s (f.moveUp s visible) := by
  rw [moveUp]
  split
  · exact .empty
  · exact .turned _

theorem moveDown_moved (visible : Span) : f.Moved s (f.moveDown s visible) := by
  unfold moveDown
  split
  · exact .empty
  · split
    · exact .stays rfl
    · exact .turned _

theorem moveTo_moved (position : Nat) : f.Moved s (moveTo s position) := by
  rw [moveTo]
  split
  · exact .empty
  · exact .turned _

end Fork

namespace Store

variable {s : Store}

theorem Sound.markAppended (sound : s.Sound) (f : Fork) (k : Key) :
    (f.markAppended s k).Sound := by
  rw [Fork.markAppended]
  split
  · exact sound.edit k (Edit.setDiscarded true)
  · exact sound

theorem Sound.partition (sound : s.Sound) (f : Fork) : (f.partition s).Sound :=
  sound.discardWhere f.discards

end Store

/-- The fork below a position is on an entry, or nothing is discarded. -/
theorem Fork.belowOrLive_inside (position len i : Nat)
    (below : Fork.belowOrLive position len = .below i) : i < len := by
  unfold Fork.belowOrLive at below
  split at below
  · exact absurd below (by simp)
  · next before =>
      obtain rfl := Fork.below.inj below
      omega

/-- Below the last entry the fork is live. -/
theorem Fork.belowOrLive_discards {position len i : Nat}
    (below : Fork.belowOrLive position len = .below i) : i + 1 < len := by
  unfold Fork.belowOrLive at below
  split at below
  · exact absurd below (by simp)
  · next before =>
      obtain rfl := Fork.below.inj below
      omega

end Chronicle
