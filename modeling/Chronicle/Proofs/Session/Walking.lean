import Chronicle.Proofs.Session.Changes
import Chronicle.Proofs.Session.Searching
import Chronicle.Proofs.Session.Window
import Mathlib.Data.List.Rotate

/-!
# Walking from hit to hit

A step of the search does nothing where the key of a hit names no entry.  That never happens: entries come
and go only together with a new look at them, so a hit that is remembered is an entry (`Since.walkable`).
Hence each step of a search lands on a hit (`Walkable.jumpTo`), and as the cursor goes round, a walk is the
list of the hits turned until it begins with the next one: every hit is visited, and none of them twice
(`walksHits_handling`).
-/

namespace Chronicle

/-! ## Round the hits -/

namespace Search

/-- The hit after the cursor. -/
def following (q : Search) : Nat :=
  match q.cursor with
  | some c => (c + 1) % q.hits.length
  | none => 0

/-- The hit before the cursor. -/
def preceding (q : Search) : Nat :=
  match q.cursor with
  | some c => (c + q.hits.length - 1) % q.hits.length
  | none => q.hits.length - 1

theorem next?_eq {q : Search} (nonempty : q.hits ≠ []) :
    q.next? = some q.following ∧ q.following < q.hits.length := by
  have some_hits : 0 < q.hits.length := List.length_pos_iff.mpr nonempty
  refine ⟨if_neg (by simpa using nonempty), ?_⟩
  rw [following]
  split
  · exact Nat.mod_lt _ some_hits
  · exact some_hits

theorem previous?_eq {q : Search} (nonempty : q.hits ≠ []) :
    q.previous? = some q.preceding ∧ q.preceding < q.hits.length := by
  have some_hits : 0 < q.hits.length := List.length_pos_iff.mpr nonempty
  refine ⟨if_neg (by simpa using nonempty), ?_⟩
  rw [preceding]
  split
  · exact Nat.mod_lt _ some_hits
  · exact Nat.sub_one_lt_of_lt some_hits

/-- A step back is one less, from the first to the last. -/
theorem preceding_eq (q : Search) (nonempty : q.hits ≠ []) {c : Nat} (at_c : q.cursor = some c) :
    (q.preceding : ℤ) = ((c : ℤ) - 1) % q.hits.length := by
  have some_hits := List.length_pos_iff.mpr nonempty
  have shifted : ((c + q.hits.length - 1 : ℕ) : ℤ) = (c : ℤ) - 1 + q.hits.length := by omega
  rw [preceding, at_c, Int.natCast_emod, shifted, Int.add_emod_right]

theorem preceding_succ {n c : Nat} (lt : c < n) : ((c + 1) % n + n - 1) % n = c := by
  by_cases last : c + 1 = n
  · rw [last, Nat.mod_self, Nat.zero_add, Nat.mod_eq_of_lt (Nat.sub_one_lt_of_lt lt)]
    omega
  · have within : c + 1 < n := by omega
    rw [Nat.mod_eq_of_lt within, show c + 1 + n - 1 = c + n from by omega, Nat.add_mod_right,
      Nat.mod_eq_of_lt lt]

end Search

namespace Session

variable {s : Session} {i : Nat} {k : Key}

/-! ## Landing -/

/-- Every hit is an entry, there are no two of the same, and the cursor is on one of them or nowhere. -/
structure Walkable (s : Session) : Prop where
  framed : s.IsFramed
  live : ∀ k ∈ s.search.hits, s.store.contains k = true
  nodup : s.search.hits.Nodup
  cursor : ∀ i, s.search.cursor = some i → i < s.search.hits.length

/-- The cursor is on a hit; the entry of this hit is selected, and in the window, which does not follow the
end. -/
structure StandsOn (s : Session) (i : Nat) (k : Key) : Prop where
  cursor : s.search.cursor = some i
  hit : s.search.hits[i]? = some k
  selected : ∃ p, s.store.keyAt? p = some k ∧ s.viewport.selected = some p ∧
    s.viewport.isVisible p s.size = true
  follow : s.viewport.follow = false

/-- A step leads to a hit, and the timeline and the hits are as they were. -/
structure Lands (s : Session) (i : Nat) (s' : Session) : Prop where
  stands : ∃ k, s'.StandsOn i k
  store : s'.store = s.store
  hits : s'.search.hits = s.search.hits
  walkable : s'.Walkable

/-- What the search found when it looked last is still there. -/
theorem Since.walkable {seen : Session} (since : Since seen s) (framed : s.IsFramed) : s.Walkable where
  framed := framed
  live := by
    intro k mem
    have there := since.fresh.contains since.sound (since.hits ▸ mem)
    obtain ⟨e, found⟩ := Option.isSome_iff_exists.mp there
    have listed : k ∈ s.store.order := since.order ▸ (since.sound.live k).mp ⟨e, found⟩
    exact Option.isSome_iff_exists.mpr ((framed.sound.live k).mpr listed)
  nodup := by
    rw [since.hits, since.fresh.hits, Search.sought]
    split
    · rw [Search.hitsIn_eq_filter since.sound]
      exact since.sound.order_nodup.filter _
    · exact List.nodup_nil
  cursor := since.cursor

theorem Walkable.jumpTo (walkable : s.Walkable) (lt : i < s.search.hits.length) :
    s.Lands i (s.jumpTo i) := by
  have hit := List.getElem?_eq_getElem lt
  obtain ⟨e, found⟩ := Option.isSome_iff_exists.mp (walkable.live _ (List.getElem_mem lt))
  obtain ⟨p, at_p⟩ := List.mem_iff_getElem?.mp ((walkable.framed.sound.live _).mp ⟨e, found⟩)
  have position := walkable.framed.sound.positionOf?_eq_some.mpr at_p
  have p_lt : p < s.size := (List.getElem?_eq_some_iff.mp at_p).1
  have rows_pos : 1 ≤ (s.viewport.select (some p) s.size).rows :=
    (s.viewport.select_frame p s.size).1.symm ▸ walkable.framed.fits.rows_pos
  have same : s.jumpTo i = ({ s with search := { s.search with cursor := some i } } : Session).moveWindow
      fun v len => (v.select (some p) len).centerOn p len := by
    rw [Session.jumpTo, hit, Option.bind_some, position]
  rw [same]
  refine ⟨⟨s.search.hits[i], rfl, hit, ⟨p, at_p, ?_, ?_⟩, rfl⟩, rfl, rfl, ?_⟩
  · exact Viewport.selected_select p_lt
  · exact Viewport.isVisible_centerOn rows_pos p_lt
  · refine ⟨⟨walkable.framed.sound, walkable.framed.fits.select_centerOn p p⟩, walkable.live,
      walkable.nodup, ?_⟩
    intro j at_j
    exact Option.some.inj at_j ▸ lt

/-! ## One step -/

theorem Walkable.searchNext (walkable : s.Walkable) (nonempty : s.search.hits ≠ []) :
    s.searchNext.1 = true ∧ s.Lands s.search.following s.searchNext.2 := by
  obtain ⟨next, lt⟩ := Search.next?_eq nonempty
  rw [Session.searchNext, next]
  exact ⟨rfl, walkable.jumpTo lt⟩

theorem Walkable.searchPrevious (walkable : s.Walkable) (nonempty : s.search.hits ≠ []) :
    s.searchPrevious.1 = true ∧ s.Lands s.search.preceding s.searchPrevious.2 := by
  obtain ⟨previous, lt⟩ := Search.previous?_eq nonempty
  rw [Session.searchPrevious, previous]
  exact ⟨rfl, walkable.jumpTo lt⟩

/-- A step back leads to where the step before it came from. -/
theorem Walkable.cursor_searchPrevious_searchNext (walkable : s.Walkable) {c : Nat}
    (at_c : s.search.cursor = some c) :
    s.searchNext.2.searchPrevious.2.search.cursor = some c := by
  have lt := walkable.cursor c at_c
  have nonempty : s.search.hits ≠ [] := List.ne_nil_of_length_pos (Nat.zero_lt_of_lt lt)
  obtain ⟨-, there⟩ := walkable.searchNext nonempty
  obtain ⟨-, back⟩ := there.walkable.searchPrevious (there.hits ▸ nonempty)
  obtain ⟨k, on⟩ := there.stands
  obtain ⟨k', on'⟩ := back.stands
  rw [on'.cursor, Search.preceding, on.cursor, there.hits, Search.following, at_c]
  exact congrArg some (Search.preceding_succ lt)

/-! ## The walk -/

/-- Step by step the cursor goes round the hits. -/
theorem Walkable.run_searchNext (walkable : s.Walkable) (nonempty : s.search.hits ≠ []) (j : Nat) :
    s.Lands ((j + s.search.following) % s.search.hits.length)
      (s.run (List.replicate (j + 1) .searchNext)) := by
  induction j with
  | zero =>
      obtain ⟨-, lands⟩ := walkable.searchNext nonempty
      obtain ⟨k, on⟩ := lands.stands
      have lt := (List.getElem?_eq_some_iff.mp on.hit).1
      rw [lands.hits] at lt
      rw [Nat.zero_add, Nat.mod_eq_of_lt lt]
      exact lands
  | succ j ih =>
      obtain ⟨k, on⟩ := ih.stands
      obtain ⟨-, lands⟩ := ih.walkable.searchNext (ih.hits ▸ nonempty)
      have next : (s.run (List.replicate (j + 1) .searchNext)).search.following =
          (j + 1 + s.search.following) % s.search.hits.length := by
        rw [Search.following, on.cursor, ih.hits]
        simp only
        rw [Nat.mod_add_mod, Nat.add_right_comm]
      rw [next] at lands
      rw [List.replicate_succ', run_append]
      exact ⟨lands.stands, lands.store.trans ih.store, lands.hits.trans ih.hits, lands.walkable⟩

/-- A walk through the hits goes to each of them. -/
structure WalksHits (s : Session) : Prop where
  live : ∀ k ∈ s.search.hits, s.store.contains k = true
  next : s.searchNext.1 = true ∧ ∃ i, s.Lands i s.searchNext.2 ∧
    (∀ c, s.search.cursor = some c → i = (c + 1) % s.search.hits.length) ∧
    (s.search.cursor = none → i = 0)
  previous : s.searchPrevious.1 = true ∧ ∃ i, s.Lands i s.searchPrevious.2 ∧
    (∀ c, s.search.cursor = some c → (i : ℤ) = ((c : ℤ) - 1) % s.search.hits.length) ∧
    (s.search.cursor = none → i = s.search.hits.length - 1)
  undone : ∀ c, s.search.cursor = some c →
    s.searchNext.2.searchPrevious.2.search.cursor = some c
  nodup : s.search.hits.Nodup
  /-- As many steps as there are hits are a tour of them. -/
  tour : ∃ tour : List Key, tour.Perm s.search.hits ∧ ∀ j k, tour[j]? = some k →
    ∃ i, (s.run (List.replicate (j + 1) .searchNext)).StandsOn i k

theorem Walkable.walksHits (walkable : s.Walkable) (nonempty : s.search.hits ≠ []) : s.WalksHits := by
  refine ⟨walkable.live, ?next, ?previous, ?undone, walkable.nodup, ?tour⟩
  case next =>
    obtain ⟨found, lands⟩ := walkable.searchNext nonempty
    refine ⟨found, _, lands, ?_, ?_⟩
    · intro c at_c
      rw [Search.following, at_c]
    · intro nowhere
      rw [Search.following, nowhere]
  case previous =>
    obtain ⟨found, lands⟩ := walkable.searchPrevious nonempty
    refine ⟨found, _, lands, ?_, ?_⟩
    · intro c at_c
      exact Search.preceding_eq s.search nonempty at_c
    · intro nowhere
      rw [Search.preceding, nowhere]
  case undone =>
    intro c at_c
    exact walkable.cursor_searchPrevious_searchNext at_c
  case tour =>
    -- the tour is the list of the hits, turned until it begins with the next one
    refine ⟨s.search.hits.rotate s.search.following, List.rotate_perm _ _, ?_⟩
    intro j k at_j
    have lands := walkable.run_searchNext nonempty j
    obtain ⟨k', on⟩ := lands.stands
    have lt := (List.getElem?_eq_some_iff.mp at_j).1
    rw [List.length_rotate] at lt
    rw [List.getElem?_rotate lt] at at_j
    have hit := on.hit
    rw [lands.hits, at_j] at hit
    obtain rfl := Option.some.inj hit
    exact ⟨_, on⟩

theorem evicts_handling (messages : List (Message × Instant)) :
    ∀ a ∈ handling messages, a.evicts = false := by
  intro a mem
  obtain ⟨mn, -, rfl⟩ := List.mem_map.mp mem
  rfl

/-- In every state that messages lead to, a search that has found something can be walked. -/
theorem walksHits_handling (c : Config) (messages : List (Message × Instant))
    (some_hits : 1 ≤ ((start c).run (handling messages)).search.hits.length) :
    ((start c).run (handling messages)).WalksHits := by
  have first : Since (start c) (start c) :=
    .here (isPartitioned_start c).sound (Search.fresh_empty _)
  have framed := (isFramed_start c).run (handling messages) (evicts_handling messages)
  have walkable := (first.handling (isPartitioned_start c) messages).walkable framed
  exact walkable.walksHits (List.ne_nil_of_length_pos some_hits)

/-- A fork is made when two files have been read, and a third is read in it.  All three are found; the oldest
has gone when the session is live again. -/
def filesFound : List (Message × Instant) :=
  [(.fileRead (.producer "a") "log" [], 0), (.fileRead (.producer "b") "log" [], 0),
    (.command .moveForkUp, 0), (.fileRead (.producer "c") "log" [], 0),
    (.command (.search "log"), 0), (.command .cancelFork, 0)]

theorem walksHits_handling_filesFound :
    ((start { Config.standard with historyCap := 2, rows := 1 }).run
        (handling filesFound)).search.hits.length = 2 ∧
      ((start { Config.standard with historyCap := 2, rows := 1 }).run
        (handling filesFound)).search.cursor = some 1 ∧
      ((start { Config.standard with historyCap := 2, rows := 1 }).run
        (handling filesFound)).WalksHits := by
  have hits : ((start { Config.standard with historyCap := 2, rows := 1 }).run
      (handling filesFound)).search.hits.length = 2 := by decide +kernel
  exact ⟨hits, by decide +kernel, walksHits_handling _ filesFound (by rw [hits]; decide)⟩

end Session

end Chronicle
