import Chronicle.Proofs.Timeline.Lifecycle
import Mathlib.Logic.Relation

/-!
# Changes of the log

A `Log` is the part of a session that messages are about: the store, and the correlator with its list of
open thoughts.  `Log.Change` lists the small changes that everything done to a session comes to, each
with what has been checked before it is made.

Two things are shown of a change, and of any number of them after one another (`Changes.coherent`,
`Changes.continues`).  A coherent log stays coherent: every entry is, at most one thought is open, it
is the last entry, and the list of open thoughts says which it is.  And the new log continues the old
one: an entry that was there and is there still is a later state of what it was.
-/

namespace Chronicle

/-- The entries, and which of them are open thoughts. -/
structure Log where
  correlator : Correlator
  store : Store

namespace Log

/-- One small change.  `reword` says which kinds an acknowledgement may give to the entry of a key, when
that has been confirmed already. -/
inductive Change (reword : Key → Kind → Prop) : Log → Log → Prop where
  /-- An entry changes where it stands, if the key names one. -/
  | turn (l : Log) (k : Key) (f : Edit)
      (turns : ∀ e, l.store.get? k = some e → e.Turn (reword k) (f.run e)) :
      Change reword l { l with store := l.store.update k f.run }
  /-- The last piece of a thought has come. -/
  | endThought (l : Log) {k : Key} {e : Entry} (found : l.store.get? k = some e)
      (opened : e.isOpen = true) (text : String) (now : Instant) :
      Change reword l
        ⟨{ l.correlator with openThoughts := l.correlator.openThoughts.filter (· ≠ k) },
          l.store.update k (Entry.thinkLastEdit text now).run⟩
  /-- The first of the open thoughts is closed, since another entry is about to start. -/
  | closeThought (l : Log) {k : Key} {rest : List Key}
      (first : l.correlator.openThoughts = k :: rest) (now : Instant) :
      Change reword l
        ⟨{ l.correlator with openThoughts := rest }, l.store.update k (Entry.closeEdit now).run⟩
  /-- Once no thought is open, an entry is appended, under an id that has not been seen or that is
  minted for it. -/
  | append (l : Log) (none_open : l.correlator.openThoughts = []) (id : CorrelationId)
      (kind : Kind) (status : Status) (now : Instant) (suits : kind.Suits status)
      (unused : l.store.hasSeen id = false ∨ ∃ sort, id = .mint sort l.store.nextSequence) :
      Change reword l
        ⟨{ l.correlator with
            openThoughts :=
              if (l.store.fresh id kind status now).isOpen then
                [(l.store.append id kind status now).1] else [] },
          (l.store.append id kind status now).2⟩
  | releaseLease (l : Log) (k : Key) : Change reword l { l with store := l.store.releaseLease k }
  /-- An entry is evicted, if that is not refused. -/
  | evict (l : Log) (k : Key) : Change reword l { l with store := (l.store.evict k).2 }

/-- Any number of changes. -/
abbrev Changes (reword : Key → Kind → Prop) : Log → Log → Prop :=
  Relation.ReflTransGen (Change reword)

variable {l l' l'' : Log} {reword : Key → Kind → Prop} {k : Key} {e : Entry}

/-! ## Coherence -/

/-- Every entry is coherent, and a thought that is open is the last entry and the one that is listed. -/
structure Coherent (l : Log) : Prop where
  sound : l.store.Sound
  entries : ∀ k e, l.store.get? k = some e → e.Coherent
  thoughts : ∀ k, k ∈ l.correlator.openThoughts ↔ ∃ e, l.store.get? k = some e ∧ e.isOpen = true
  single : l.correlator.openThoughts.length ≤ 1
  last : ∀ k e, l.store.get? k = some e → e.isOpen = true → e.sequence + 1 = l.store.nextSequence

theorem Coherent.openThoughts_cases (holds : l.Coherent) :
    l.correlator.openThoughts = [] ∨ ∃ k, l.correlator.openThoughts = [k] := by
  have single := holds.single
  cases thoughts : l.correlator.openThoughts with
  | nil => exact .inl rfl
  | cons k rest =>
      rw [thoughts, List.length_cons] at single
      exact .inr ⟨k, by rw [List.eq_nil_of_length_eq_zero (by omega : rest.length = 0)]⟩

theorem Coherent.openThoughts_eq (holds : l.Coherent) (found : l.store.get? k = some e)
    (opened : e.isOpen = true) : l.correlator.openThoughts = [k] := by
  have mem := (holds.thoughts k).mpr ⟨e, found, opened⟩
  rcases holds.openThoughts_cases with none | ⟨k', one⟩
  · rw [none] at mem
    exact absurd mem List.not_mem_nil
  · rw [one, List.mem_singleton] at mem
    rw [one, mem]

theorem Coherent.not_mem_openThoughts (holds : l.Coherent) (found : l.store.get? k = some e)
    (shut : e.isOpen = false) : k ∉ l.correlator.openThoughts := by
  intro mem
  obtain ⟨e', found', opened⟩ := (holds.thoughts k).mp mem
  obtain rfl := Option.some.inj (found.symm.trans found')
  exact absurd (shut.symm.trans opened) Bool.false_ne_true

theorem coherent_empty (c : Correlator) (none_open : c.openThoughts = []) (retiredCap : Nat) :
    Coherent ⟨c, .empty retiredCap⟩ where
  sound := .empty retiredCap
  entries k e found := by simp [Store.empty, Store.get?, Store.slot?] at found
  thoughts k := by simp [none_open, Store.empty, Store.get?, Store.slot?]
  single := by simp [none_open]
  last k e found := by simp [Store.empty, Store.get?, Store.slot?] at found

/-- An entry that stays open, or stays what else it was, changes nothing about the open thoughts. -/
theorem Coherent.edit (holds : l.Coherent) (k : Key) (f : Edit)
    (coherent : ∀ e, l.store.get? k = some e → (f.run e).Coherent)
    (isOpen : ∀ e, l.store.get? k = some e → (f.run e).isOpen = e.isOpen) :
    Coherent { l with store := l.store.update k f.run } where
  sound := holds.sound.edit k f
  entries k' e' found := by
    rw [Store.get?_update] at found
    split at found
    · obtain ⟨e, was, rfl⟩ := Option.map_eq_some_iff.mp found
      exact coherent e was
    · exact holds.entries k' e' found
  thoughts k' := by
    rw [holds.thoughts k', Store.get?_update]
    split
    · next same =>
        subst same
        cases found : l.store.get? k' with
        | none => simp
        | some e => simp [isOpen e found]
    · exact Iff.rfl
  single := holds.single
  last k' e' found opened := by
    rw [Store.get?_update] at found
    split at found
    · next same =>
        obtain ⟨e, was, rfl⟩ := Option.map_eq_some_iff.mp found
        rw [f.sequence_run]
        exact holds.last k e was ((isOpen e was).symm.trans opened)
    · exact holds.last k' e' found opened

/-- The one open thought ends, and none is open after it. -/
theorem Coherent.shut (holds : l.Coherent) (found : l.store.get? k = some e)
    (opened : e.isOpen = true) (f : Edit) (coherent : (f.run e).Coherent)
    (ended : (f.run e).isOpen = false) {c : Correlator} (none_open : c.openThoughts = []) :
    Coherent ⟨c, l.store.update k f.run⟩ := by
  have listed := holds.openThoughts_eq found opened
  have closed : ∀ k' e', (l.store.update k f.run).get? k' = some e' →
      e'.Coherent ∧ e'.isOpen = false := by
    intro k' e' found'
    rw [Store.get?_update] at found'
    split at found'
    · obtain rfl : f.run e = e' := by simpa [found] using found'
      exact ⟨coherent, ended⟩
    · next other =>
        refine ⟨holds.entries k' e' found', Bool.eq_false_iff.mpr fun opened' => other ?_⟩
        have mem := (holds.thoughts k').mpr ⟨e', found', opened'⟩
        rwa [listed, List.mem_singleton] at mem
  refine ⟨holds.sound.edit k f, fun k' e' found' => (closed k' e' found').1, fun k' => ?_, ?_, ?_⟩
  · rw [none_open]
    refine ⟨fun mem => absurd mem List.not_mem_nil, ?_⟩
    rintro ⟨e', found', opened'⟩
    exact absurd opened' (by simp [(closed k' e' found').2])
  · simp [none_open]
  · intro k' e' found' opened'
    exact absurd opened' (by simp [(closed k' e' found').2])

theorem fresh_coherent {s : Store} {id : CorrelationId} {kind : Kind} {status : Status}
    {now : Instant} (suits : kind.Suits status) : (s.fresh id kind status now).Coherent where
  suits := suits
  ended := by
    simp only [Store.fresh]
    split <;> simp [*]

theorem Coherent.append (holds : l.Coherent) (none_open : l.correlator.openThoughts = [])
    (id : CorrelationId) (kind : Kind) (status : Status) (now : Instant)
    (suits : kind.Suits status) :
    Coherent ⟨{ l.correlator with
        openThoughts :=
          if (l.store.fresh id kind status now).isOpen then
            [(l.store.append id kind status now).1] else [] },
      (l.store.append id kind status now).2⟩ := by
  have found := holds.sound.get?_append id kind status now
  have closed : ∀ k e, l.store.get? k = some e → e.isOpen = false := by
    intro k e found
    refine Bool.eq_false_iff.mpr fun opened => ?_
    have mem := (holds.thoughts k).mpr ⟨e, found, opened⟩
    simp [none_open] at mem
  refine ⟨holds.sound.append id kind status now, fun k e at_k => ?_, fun k => ?_, ?_,
    fun k e at_k opened => ?_⟩
  · rw [found] at at_k
    split at at_k
    · obtain rfl := Option.some.inj at_k
      exact fresh_coherent suits
    · exact holds.entries k e at_k
  · simp only [found]
    by_cases new : k = (l.store.append id kind status now).1
    · cases opened : (l.store.fresh id kind status now).isOpen <;> simp [new, opened]
    · simp only [if_neg new]
      constructor
      · intro mem
        split at mem
        · exact absurd (List.mem_singleton.mp mem) new
        · exact absurd mem List.not_mem_nil
      · rintro ⟨e, at_k, opened⟩
        exact absurd opened (by simp [closed k e at_k])
  · simp only
    split <;> simp
  · rw [found] at at_k
    rw [Store.nextSequence_append]
    split at at_k
    · obtain rfl := Option.some.inj at_k
      rfl
    · exact absurd opened (by simp [closed k e at_k])

theorem Coherent.releaseLease (holds : l.Coherent) (k : Key) :
    Coherent { l with store := l.store.releaseLease k } where
  sound := holds.sound.releaseLease k
  entries k' e found := holds.entries k' e (by rwa [Store.get?_releaseLease] at found)
  thoughts k' := by simp only [Store.get?_releaseLease]; exact holds.thoughts k'
  single := holds.single
  last k' e found := holds.last k' e (by rwa [Store.get?_releaseLease] at found)

/-- An open thought is never taken out. -/
theorem Coherent.evict (holds : l.Coherent) (k : Key) :
    Coherent { l with store := (l.store.evict k).2 } := by
  rcases holds.sound.evict_cases k with ⟨v, refused⟩ | ⟨e, p, found, finished, -, at_p, evicted⟩
  · rw [refused]
    exact holds
  · rw [evicted]
    have closed := Entry.not_isOpen_of_isFinished finished
    refine ⟨holds.sound.without at_p e.id, fun k' e' found' => ?_, fun k' => ?_, holds.single,
      fun k' e' found' => ?_⟩
    · rw [Store.get?_without found] at found'
      split at found'
      · exact absurd found' (by simp)
      · exact holds.entries k' e' found'
    · rw [holds.thoughts k', Store.get?_without found]
      by_cases same : k' = k
      · simp [same, found, closed]
      · simp [same]
    · rw [Store.get?_without found] at found'
      rw [Store.nextSequence_without]
      split at found'
      · exact absurd found' (by simp)
      · exact holds.last k' e' found'

theorem Change.coherent (change : Change reword l l') (holds : l.Coherent) : l'.Coherent := by
  cases change with
  | turn k f turns =>
      exact holds.edit k f (fun e found => (turns e found).coherent (holds.entries k e found))
        fun e found => (turns e found).isOpen
  | endThought found opened text now =>
      have thinking := Entry.isOpen_think opened text now
      refine holds.shut found opened _ (Entry.coherent_finish thinking now)
        (Entry.isOpen_finish _ now) ?_
      simp [holds.openThoughts_eq found opened]
  | @closeThought k rest first now =>
      obtain ⟨e, found, opened⟩ := (holds.thoughts k).mp (by rw [first]; exact List.mem_cons_self)
      have listed := holds.openThoughts_eq found opened
      have run : (Entry.closeEdit now).run e = e.finish .completed now :=
        Entry.closeBurst_of_isOpen opened now
      refine holds.shut found opened _ ?_ ?_ (List.cons.inj (first.symm.trans listed)).2
      · rw [run]
        exact Entry.coherent_finish opened now
      · rw [run]
        exact Entry.isOpen_finish e now
  | append none_open id kind status now suits unused =>
      exact holds.append none_open id kind status now suits
  | releaseLease k => exact holds.releaseLease k
  | evict k => exact holds.evict k

/-! ## Going on -/

/-- An entry that was there before and is there now is under the key it had, and a later state of what
it was.  New entries have higher numbers. -/
structure Continues (reword : Key → Kind → Prop) (l l' : Log) : Prop where
  next : l.store.nextSequence ≤ l'.store.nextSequence
  entries : ∀ k e', l'.store.get? k = some e' → e'.sequence < l.store.nextSequence →
    ∃ e, l.store.get? k = some e ∧ e.Follows (reword k) e'

/-- An entry with a number that had been given was there. -/
theorem Continues.exists_of_lt (continues : Continues reword l l') {e' : Entry}
    (found' : l'.store.get? k = some e') (old : e'.sequence < l.store.nextSequence) :
    ∃ e, l.store.get? k = some e ∧ e.sequence = e'.sequence := by
  obtain ⟨e, found, follows⟩ := continues.entries k e' found' old
  exact ⟨e, found, (congrArg Prod.snd follows.name).symm⟩

theorem Continues.refl (l : Log) : Continues reword l l :=
  ⟨Nat.le_refl _, fun _ e found _ => ⟨e, found, .refl e⟩⟩

theorem Continues.trans (first : Continues reword l l') (rest : Continues reword l' l'') :
    Continues reword l l'' where
  next := Nat.le_trans first.next rest.next
  entries k e'' found'' old := by
    obtain ⟨e', found', follows'⟩ :=
      rest.entries k e'' found'' (Nat.lt_of_lt_of_le old first.next)
    have same : e''.sequence = e'.sequence := congrArg Prod.snd follows'.name
    obtain ⟨e, found, follows⟩ := first.entries k e' found' (same ▸ old)
    exact ⟨e, found, follows.trans follows'⟩

theorem Continues.mono {reword' : Key → Kind → Prop} (continues : Continues reword l l')
    (more : ∀ k kind, reword k kind → reword' k kind) : Continues reword' l l' where
  next := continues.next
  entries k e' found' old := by
    obtain ⟨e, found, follows⟩ := continues.entries k e' found' old
    exact ⟨e, found, follows.mono (more k)⟩

theorem Continues.edit (l : Log) (c : Correlator) (k : Key) (f : Edit)
    (follows : ∀ e, l.store.get? k = some e → e.Follows (reword k) (f.run e)) :
    Continues reword l ⟨c, l.store.update k f.run⟩ where
  next := Nat.le_refl _
  entries k' e' found' old := by
    rw [Store.get?_update] at found'
    split at found'
    · next same =>
        subst same
        obtain ⟨e, found, rfl⟩ := Option.map_eq_some_iff.mp found'
        exact ⟨e, found, follows e found⟩
    · exact ⟨e', found', .refl e'⟩

theorem Change.continues (change : Change reword l l') (holds : l.Coherent) :
    Continues reword l l' := by
  cases change with
  | turn k f turns =>
      exact .edit l _ k f fun e found => (turns e found).follows (holds.entries k e found)
  | @endThought k e found opened text now =>
      refine .edit l _ k _ fun e' found' => ?_
      obtain rfl := Option.some.inj (found.symm.trans found')
      exact (holds.entries k e found).follows_thinkLast opened text now
  | closeThought first now => exact .edit l _ _ _ fun e _ => e.follows_closeBurst now
  | append none_open id kind status now suits unused =>
      refine ⟨?_, fun k e' found' old => ?_⟩
      · rw [Store.nextSequence_append]
        exact Nat.le_succ _
      · rw [holds.sound.get?_append] at found'
        split at found'
        · obtain rfl := Option.some.inj found'
          exact absurd old (Nat.lt_irrefl _)
        · exact ⟨e', found', .refl e'⟩
  | releaseLease k =>
      refine ⟨Nat.le_refl _, fun k' e' found' _ => ⟨e', ?_, .refl e'⟩⟩
      rwa [Store.get?_releaseLease] at found'
  | evict k =>
      rcases holds.sound.evict_cases k with ⟨v, refused⟩ | ⟨e, p, found, -, -, -, evicted⟩
      · rw [refused]
        exact .refl l
      · rw [evicted]
        refine ⟨Nat.le_of_eq (Store.nextSequence_without _ _ _ _).symm, fun k' e' found' _ => ?_⟩
        rw [Store.get?_without found] at found'
        split at found'
        · exact absurd found' (by simp)
        · exact ⟨e', found', .refl e'⟩

/-! ## Any number of changes -/

theorem Changes.coherent (changes : Changes reword l l') (holds : l.Coherent) : l'.Coherent := by
  induction changes with
  | refl => exact holds
  | tail _ change ih => exact change.coherent ih

theorem Changes.continues (changes : Changes reword l l') (holds : l.Coherent) :
    Continues reword l l' := by
  induction changes with
  | refl => exact .refl l
  | tail before change ih => exact ih.trans (change.continues (Changes.coherent before holds))

end Log

end Chronicle
