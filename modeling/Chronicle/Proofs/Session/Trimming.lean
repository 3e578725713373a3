import Chronicle.Proofs.Hero
import Chronicle.Proofs.Session.Intake
import Chronicle.Proofs.Session.Partition

/-!
# What enforcing the history cap takes out

The victims are picked in one pass, and evicted one by one through checks of their own.  In a session that
is live none of the checks refuses a finished entry (`IsPartitioned.evict_of_finished`): nothing is
discarded, and the hero runs.  So the victims go, and they alone (`IsPartitioned.trims`).
-/

namespace Chronicle

namespace Store

variable {s : Store} {k : Key} {p : Nat}

/-- The entries that are finished, in order. -/
def finished (s : Store) : List (Key × Entry) :=
  s.entries.filter fun ke => ke.2.status.isFinished

/-- The number of entries that are not finished. -/
def unfinished (s : Store) : Nat :=
  (s.entries.filter fun ke => !ke.2.status.isFinished).length

theorem Sound.length_names (sound : s.Sound) : s.names.length = s.size := by
  rw [names, List.length_map, sound.length_entries]

theorem Sound.entries_nodup (sound : s.Sound) : s.entries.Nodup := by
  have keys := sound.order_nodup
  rw [← sound.keys_entries] at keys
  exact keys.of_map _

theorem Sound.entries_without_eq_filter (sound : s.Sound) (at_p : s.keyAt? p = some k)
    (id : CorrelationId) : (s.without k p id).entries = s.entries.filter fun ke => ke.1 ≠ k := by
  obtain ⟨e, found⟩ := (sound.live k).mpr (List.mem_of_getElem? at_p)
  rw [entries, order_without, sound.eraseIdx_order at_p, List.filterMap_filter, entries,
    List.filter_filterMap]
  refine List.filterMap_congr fun k' _ => ?_
  rw [get?_without found]
  by_cases same : k' = k
  · cases s.get? k' <;> simp [same, Option.filter_some]
  · cases s.get? k' <;> simp [same, Option.filter_some]

end Store

/-- Under a live card nothing is discarded. -/
theorem Fork.Partitions.discarded_of_live {f : Fork} {s : Store} (holds : f.Partitions s)
    (live : f = .live) {k : Key} {e : Entry} (mem : (k, e) ∈ s.entries) : e.discarded = false := by
  have flag : e.discarded ∈ s.flags := List.mem_map.mpr ⟨(k, e), mem, rfl⟩
  rw [holds.flags, live, flags_live] at flag
  exact List.eq_of_mem_replicate flag

namespace Session

variable {s s' : Session} {k : Key} {e : Entry}

/-! ## Evicting a finished entry -/

theorem IsPartitioned.evict_of_finished (holds : s.IsPartitioned) (live : s.fork = .live)
    (found : s.store.get? k = some e) (finished : e.status.isFinished = true) :
    ∃ p, s.store.keyAt? p = some k ∧ s.evict k = (.ok e, s.without k p e.id) := by
  have not_hero : (Hero.candidate? s.store).any (·.1 = k) = false := by
    rw [Store.candidate?_eq]
    cases hero : s.store.heroAt? with
    | none => rfl
    | some kep =>
        obtain ⟨⟨k', e'⟩, p⟩ := kep
        obtain ⟨-, hero⟩ := (Store.heroAt?_eq_some holds.sound).mp hero
        refine decide_eq_false fun same => ?_
        have found' := holds.sound.mem_entries.mp hero.mem
        rw [show k' = k from same] at found'
        obtain rfl := Option.some.inj (found.symm.trans found')
        have runs : e.status = .running := by simpa [Entry.isRunning] using hero.holds
        rw [runs] at finished
        exact absurd finished (by simp [Status.isFinished])
  obtain ⟨p, at_p, evicted⟩ :=
    holds.sound.evict_of_finished found finished
      (Fork.Partitions.discarded_of_live holds live (holds.sound.mem_entries.mpr found))
  refine ⟨p, at_p, ?_⟩
  simp [Session.evict, live, not_hero, evicted, Fork.isForked, Session.without]

/-- The entries of these keys are finished. -/
def AllFinished (s : Session) (victims : List (Nat × Key)) : Prop :=
  ∀ v ∈ victims, ∃ e, s.store.get? v.2 = some e ∧ e.status.isFinished = true

/-- The first of some finished entries goes, and the others are there still. -/
theorem IsPartitioned.evict_first (holds : s.IsPartitioned) (live : s.fork = .live)
    {victim : Nat × Key} {victims : List (Nat × Key)}
    (nodup : ((victim :: victims).map (·.2)).Nodup) (finished : s.AllFinished (victim :: victims)) :
    ∃ e p, s.store.get? victim.2 = some e ∧ s.store.keyAt? p = some victim.2 ∧
      s.evict victim.2 = (.ok e, s.without victim.2 p e.id) ∧
      (s.without victim.2 p e.id).IsPartitioned ∧
      (s.without victim.2 p e.id).AllFinished victims := by
  obtain ⟨absent, nodup⟩ := List.nodup_cons.mp nodup
  obtain ⟨e, found, done⟩ := finished victim List.mem_cons_self
  obtain ⟨p, at_p, evicted⟩ := holds.evict_of_finished live found done
  refine ⟨e, p, found, at_p, evicted, ?_, fun v mem => ?_⟩
  · have kept := holds.evict victim.2
    rwa [evicted] at kept
  · obtain ⟨e', found', done'⟩ := finished v (List.mem_cons_of_mem _ mem)
    have other : v.2 ≠ victim.2 := fun same => absent (List.mem_map.mpr ⟨v, mem, same⟩)
    refine ⟨e', ?_, done'⟩
    show (s.store.without victim.2 p e.id).get? v.2 = some e'
    rw [Store.get?_without found, if_neg other]
    exact found'

theorem foldl_evictVictim_of_finished (victims : List (Nat × Key)) :
    ∀ (s : Session) (removed : List Nat), s.IsPartitioned → s.fork = .live →
      (victims.map (·.2)).Nodup → s.AllFinished victims →
      (victims.foldl evictVictim (removed, s)).1 = removed ++ victims.map (·.1) ∧
      (victims.foldl evictVictim (removed, s)).2.store.entries =
        s.store.entries.filter fun ke => ke.1 ∉ victims.map (·.2) := by
  induction victims with
  | nil =>
      intro s removed _ _ _ _
      simp
  | cons victim victims ih =>
      intro s removed holds live nodup finished
      obtain ⟨e, p, found, at_p, evicted, holds', finished'⟩ :=
        holds.evict_first live nodup finished
      have next : evictVictim (removed, s) victim =
          (removed ++ [victim.1], s.without victim.2 p e.id) := by
        rw [evictVictim, evicted]
      obtain ⟨collected, left⟩ := ih (s.without victim.2 p e.id) (removed ++ [victim.1]) holds' live
        (List.nodup_cons.mp nodup).2 finished'
      rw [List.foldl_cons, next]
      refine ⟨by rw [collected]; simp, ?_⟩
      rw [left]
      show (s.store.without victim.2 p e.id).entries.filter _ = _
      rw [holds.sound.entries_without_eq_filter at_p, List.filter_filter]
      refine List.filter_congr fun ke _ => ?_
      have both : ke.1 ∉ (victim :: victims).map (·.2) ↔
          ke.1 ∉ victims.map (·.2) ∧ ke.1 ≠ victim.2 := by
        rw [List.map_cons, List.mem_cons, not_or, and_comm]
      rw [decide_eq_decide.mpr both, Bool.decide_and]

/-- The victims go, and they alone. -/
theorem IsPartitioned.evictAll_of_finished (holds : s.IsPartitioned) (live : s.fork = .live)
    {victims : List (Nat × Key)} (nodup : (victims.map (·.2)).Nodup)
    (finished : s.AllFinished victims) :
    (s.evictAll victims).1 = victims.map (·.1) ∧
      (s.evictAll victims).2.store.entries =
        s.store.entries.filter fun ke => ke.1 ∉ victims.map (·.2) :=
  foldl_evictVictim_of_finished victims s [] holds live nodup finished

/-! ## The victims -/

/-- The oldest finished entries beyond the cap. -/
def excess (s : Session) : List (Key × Entry) := s.store.finished.take (s.size - s.historyCap)

/-- Under a live card the victims are the oldest finished entries. -/
theorem IsPartitioned.keys_victims (holds : s.IsPartitioned) (live : s.fork = .live) :
    s.victims.map (·.2) = s.excess.map (·.1) := by
  have picked : (s.store.entries.zipIdx.filter fun kep =>
      kep.1.2.status.isFinished && !kep.1.2.discarded).map (·.1) = s.store.finished := by
    have all := List.filter_map (f := Prod.fst) (l := s.store.entries.zipIdx)
      (p := fun ke : Key × Entry => ke.2.status.isFinished && !ke.2.discarded)
    rw [List.zipIdx_map_fst] at all
    refine all.symm.trans (List.filter_congr fun ke mem => ?_)
    rw [Fork.Partitions.discarded_of_live holds live mem]
    simp
  rw [excess, ← picked, ← List.map_take, victims, List.map_map, List.map_map]
  rfl

theorem IsPartitioned.mem_excess (holds : s.IsPartitioned) {ke : Key × Entry} (mem : ke ∈ s.excess) :
    s.store.get? ke.1 = some ke.2 ∧ ke.2.status.isFinished = true := by
  obtain ⟨listed, done⟩ := List.mem_filter.mp (List.mem_of_mem_take mem)
  exact ⟨holds.sound.mem_entries.mp listed, by simpa using done⟩

/-! ## Trimming -/

/-- Of `p` the history cap has left `q`. -/
structure Basis.Trims (p q : Basis) : Prop where
  fork : q.fork = p.fork
  historyCap : q.historyCap = p.historyCap
  next : q.store.nextSequence = p.store.nextSequence
  /-- Nothing goes while there is no cap, while it is kept, and while a fork is in progress. -/
  spares : p.historyCap = 0 ∨ p.store.size ≤ p.historyCap ∨ p.fork.isForked = true →
    q.store = p.store ∧ q.counters.evicted = p.counters.evicted
  /-- Otherwise so many entries go as the cap is exceeded by, or all that are finished. -/
  takes : p.historyCap ≠ 0 → p.historyCap < p.store.size → p.fork.isForked = false →
    ∃ gone : List (Key × Entry), gone.Sublist p.store.finished ∧
      gone.length = min (p.store.size - p.historyCap) p.store.finished.length ∧
      (∀ ke ∈ gone, ∀ ke' ∈ p.store.finished, ke' ∉ gone → ke.2.sequence < ke'.2.sequence) ∧
      q.store.entries = p.store.entries.filter (· ∉ gone) ∧
      q.counters.evicted = p.counters.evicted + gone.length

theorem Basis.spared_or_over (p : Basis) :
    (p.historyCap = 0 ∨ p.store.size ≤ p.historyCap ∨ p.fork.isForked = true) ∨
      p.historyCap ≠ 0 ∧ p.historyCap < p.store.size ∧ p.fork.isForked = false := by
  cases p.fork.isForked with
  | true => exact .inl (.inr (.inr rfl))
  | false =>
      by_cases spared : p.historyCap = 0 ∨ p.store.size ≤ p.historyCap
      · exact .inl (spared.imp_right .inl)
      · exact .inr ⟨by omega, by omega, rfl⟩

/-- Taking out some elements leaves the others. -/
theorem length_filter_not_mem {α : Type} [BEq α] [LawfulBEq α] {l gone : List α}
    (nodup : l.Nodup) (sublist : gone.Sublist l) : (l.filter (· ∉ gone)).length + gone.length = l.length := by
  have taken : (l.filter (· ∈ gone)).Perm gone := by
    refine (List.perm_ext_iff_of_nodup (nodup.filter _) (nodup.sublist sublist)).mpr fun a => ?_
    simpa using fun mem => sublist.subset mem
  have split := List.length_eq_length_filter_add (l := l) fun a => decide (a ∈ gone)
  rw [taken.length_eq] at split
  simp only [decide_not]
  omega

section Trims

variable {p q : Basis} (trims : p.Trims q) (sound : p.store.Sound) (sound' : q.store.Sound)
include trims sound sound'

/-- What goes is counted. -/
theorem Basis.Trims.count :
    q.store.size + q.counters.evicted = p.store.size + p.counters.evicted := by
  rcases p.spared_or_over with spared | ⟨capped, exceeding, not_forked⟩
  · obtain ⟨store, count⟩ := trims.spares spared
    rw [store, count]
  · obtain ⟨gone, sublist, -, -, entries, count⟩ := trims.takes capped exceeding not_forked
    have length := length_filter_not_mem sound.entries_nodup (sublist.trans List.filter_sublist)
    rw [← entries, sound.length_entries, sound'.length_entries] at length
    omega

/-- While the card is live, as many entries are left as the cap allows, or none that is finished. -/
theorem Basis.Trims.bound (capped : p.historyCap ≠ 0) (live : p.fork = .live) :
    q.store.size ≤ max p.historyCap q.store.unfinished := by
  by_cases exceeding : p.historyCap < p.store.size
  · obtain ⟨gone, sublist, length, -, entries, -⟩ := trims.takes capped exceeding (by rw [live]; rfl)
    have left := length_filter_not_mem sound.entries_nodup (sublist.trans List.filter_sublist)
    rw [← entries, sound.length_entries, sound'.length_entries] at left
    by_cases enough : p.store.size - p.historyCap ≤ p.store.finished.length
    · exact Nat.le_trans (by omega) (Nat.le_max_left _ _)
    · have all : gone = p.store.finished := sublist.eq_of_length (by omega)
      have unfinished : q.store.unfinished = q.store.size := by
        rw [← sound'.length_entries, Store.unfinished, entries, List.filter_filter]
        refine congrArg List.length (List.filter_congr fun ke mem => ?_)
        simp [all, Store.finished, mem]
      exact Nat.le_trans (Nat.le_of_eq unfinished.symm) (Nat.le_max_right _ _)
  · have kept : p.store.size ≤ p.historyCap := Nat.not_lt.mp exceeding
    rw [(trims.spares (.inr (.inl kept))).1]
    exact Nat.le_trans kept (Nat.le_max_left _ _)

end Trims

theorem exceedsCap_iff :
    s.exceedsCap = true ↔
      s.historyCap ≠ 0 ∧ s.historyCap < s.size ∧ s.fork.isForked = false := by
  simp [exceedsCap, and_assoc]

theorem basis_enforceHistoryCap (s : Session) :
    s.enforceHistoryCap.2.basis =
      if s.exceedsCap then (s.evictAll s.victims).2.basis else s.basis := by
  rw [enforceHistoryCap]
  split
  · rw [show s.victims.foldl evictVictim ([], s) = s.evictAll s.victims from rfl]
    simp only
    split <;> rfl
  · rfl

/-- Of the finished entries those that go are older than those that stay. -/
theorem IsPartitioned.excess_lt (holds : s.IsPartitioned) {ke ke' : Key × Entry}
    (mem : ke ∈ s.excess) (mem' : ke' ∈ s.store.finished) (stays : ke' ∉ s.excess) :
    ke.2.sequence < ke'.2.sequence := by
  have grows : s.store.finished.Pairwise fun ke ke' => ke.2.sequence < ke'.2.sequence :=
    holds.sound.entries_increasing.filter _
  rw [← List.take_append_drop (s.size - s.historyCap) s.store.finished] at grows mem'
  rcases List.mem_append.mp mem' with taken | dropped
  · exact absurd taken stays
  · exact (List.pairwise_append.mp grows).2.2 ke mem ke' dropped

/-- Under a live card the victims are finished entries, each picked once. -/
theorem IsPartitioned.victims_finished (holds : s.IsPartitioned) (live : s.fork = .live) :
    (s.victims.map (·.2)).Nodup ∧ s.AllFinished s.victims := by
  have keys := holds.keys_victims live
  constructor
  · rw [keys]
    have sublist : (s.excess.map (·.1)).Sublist (s.store.entries.map (·.1)) :=
      ((List.take_sublist _ _).trans List.filter_sublist).map _
    rw [holds.sound.keys_entries] at sublist
    exact holds.sound.order_nodup.sublist sublist
  · intro v mem
    have key := List.mem_map_of_mem (f := (·.2)) mem
    rw [keys] at key
    obtain ⟨ke, in_excess, same⟩ := List.mem_map.mp key
    exact ⟨ke.2, same ▸ holds.mem_excess in_excess⟩

theorem IsPartitioned.trims_evictAll (holds : s.IsPartitioned) (live : s.fork = .live) :
    (s.evictAll s.victims).2.store.entries = s.store.entries.filter (· ∉ s.excess) ∧
      (s.evictAll s.victims).2.counters.evicted = s.counters.evicted + s.excess.length := by
  have keys := holds.keys_victims live
  obtain ⟨keys_nodup, finished⟩ := holds.victims_finished live
  obtain ⟨collected, left⟩ := holds.evictAll_of_finished live keys_nodup finished
  constructor
  · rw [left, keys]
    refine List.filter_congr fun ke mem => ?_
    have same : ke.1 ∈ s.excess.map (·.1) ↔ ke ∈ s.excess := by
      refine ⟨fun key => ?_, fun in_excess => List.mem_map_of_mem in_excess⟩
      obtain ⟨ke', in_excess, key⟩ := List.mem_map.mp key
      have found := (holds.mem_excess in_excess).1
      rw [key] at found
      have value := Option.some.inj (found.symm.trans (holds.sound.mem_entries.mp mem))
      rwa [← Prod.ext key value]
    simp [same]
  · rw [(evictAll_counted holds.sound s.victims).1, collected, List.length_map]
    have length := congrArg List.length keys
    rw [List.length_map, List.length_map] at length
    rw [length]

/-- Enforcing the cap leaves what it asks for. -/
theorem IsPartitioned.trims (holds : s.IsPartitioned) :
    s.basis.Trims s.enforceHistoryCap.2.basis := by
  obtain ⟨store, tokens, evicted, viewport, search, frame⟩ := enforceHistoryCap_frame s
  have fork : s.enforceHistoryCap.2.basis.fork = s.fork := by rw [frame]; rfl
  have historyCap : s.enforceHistoryCap.2.basis.historyCap = s.historyCap := by rw [frame]; rfl
  have left := basis_enforceHistoryCap s
  cases exceeds : s.exceedsCap with
  | false =>
      rw [exceeds, if_neg Bool.false_ne_true] at left
      rw [left]
      refine ⟨rfl, rfl, rfl, fun _ => ⟨rfl, rfl⟩, fun capped exceeding live => ?_⟩
      exact absurd (exceedsCap_iff.mpr ⟨capped, exceeding, live⟩) (by simp [exceeds])
  | true =>
      obtain ⟨capped, exceeding, live⟩ := exceedsCap_iff.mp exceeds
      have is_live : s.fork = .live := by
        cases fork : s.fork with
        | live => rfl
        | below i => simp [fork, Fork.isForked] at live
      obtain ⟨entries, count⟩ := holds.trims_evictAll is_live
      rw [exceeds, if_pos rfl] at left
      rw [left] at fork historyCap ⊢
      refine ⟨fork, historyCap, nextSequence_evictAll holds.sound s.victims, ?spares, ?takes⟩
      case spares =>
        rintro (none | kept | forked)
        · exact absurd none capped
        · exact absurd exceeding (Nat.not_lt.mpr kept)
        · exact absurd forked (by rw [show s.basis.fork = s.fork from rfl, live]; simp)
      case takes =>
        intro _ _ _
        exact ⟨s.excess, List.take_sublist _ _, List.length_take,
          fun ke mem ke' mem' stays => holds.excess_lt mem mem' stays, entries, count⟩

end Session

end Chronicle
