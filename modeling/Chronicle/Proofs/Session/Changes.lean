import Chronicle.Proofs.Correlator.Changes
import Chronicle.Proofs.Session.Intake
import Mathlib.Data.List.Induction

/-!
# What an action comes to

An action takes at most one message into the log; around it entries are flagged and evicted, and nothing
else happens (`perform_course`).  So every action is a few small changes of the log (`perform_changes`), a
coherent log stays coherent through every run (`coherent_log_run`), and what a run makes of an entry that
survives it is a later state of that entry (`continues_run`).  In the last two, `Reworded` names the
one thing that can still happen to a finished entry.
-/

namespace Chronicle

namespace Log

variable {l l' : Log} {reword : Key → Kind → Prop}

/-- The log that a message leaves. -/
def take (l : Log) (m : Message) (now : Instant) : Log := (l.correlator.apply l.store m now).log

/-- What happens to the log beside messages. -/
inductive Tend : Log → Log → Prop where
  | flag (l : Log) (k : Key) (discarded : Bool) :
      Tend l { l with store := l.store.update k (Edit.setDiscarded discarded).run }
  | evict (l : Log) (k : Key) : Tend l { l with store := (l.store.evict k).2 }

abbrev Tends : Log → Log → Prop := Relation.ReflTransGen Tend

theorem Tend.change (tend : Tend l l') : Change reword l l' := by
  cases tend with
  | flag k discarded => exact .turn l k (Edit.setDiscarded discarded) fun _ _ => .flag discarded
  | evict k => exact .evict l k

theorem Tends.changes (tends : Tends l l') : Changes reword l l' :=
  tends.lift id fun _ _ => Tend.change

theorem Tends.coherent (tends : Tends l l') (holds : l.Coherent) : l'.Coherent := by
  have changes : Changes (fun _ _ => True) l l' := tends.changes
  exact changes.coherent holds

theorem take_changes (l : Log) (m : Message) (now : Instant) :
    Changes (fun _ _ => True) l (l.take m now) :=
  l.correlator.apply_changes l.store m now fun _ _ _ _ _ _ => trivial

theorem Coherent.take (holds : l.Coherent) (m : Message) (now : Instant) :
    (l.take m now).Coherent :=
  (l.take_changes m now).coherent holds

/-- What holds of a sound store goes on holding beside messages, if flagging an entry and taking a finished
one out preserve it. -/
theorem Tends.preserves {motive : Log → Prop} (tends : Tends l l') (sound : l.store.Sound)
    (start : motive l)
    (flag : ∀ l k discarded, motive l →
      motive { l with store := l.store.update k (Edit.setDiscarded discarded).run })
    (without : ∀ l k e p, l.store.get? k = some e → e.status.isFinished = true →
      l.store.keyAt? p = some k → motive l →
      motive { l with store := l.store.without k p e.id }) : motive l' := by
  have both : l'.store.Sound ∧ motive l' := by
    induction tends with
    | refl => exact ⟨sound, start⟩
    | @tail l₁ _ _ last ih =>
        obtain ⟨sound, holds⟩ := ih
        cases last with
        | flag k discarded => exact ⟨sound.edit k (Edit.setDiscarded discarded), flag _ k discarded holds⟩
        | evict k =>
            refine ⟨sound.evict k, ?_⟩
            rcases sound.evict_cases k with
              ⟨v, refused⟩ | ⟨e, p, found, finished, -, at_p, evicted⟩
            · rw [refused]
              exact holds
            · rw [evicted]
              exact without _ k e p found finished at_p holds
  exact both.2

/-- An entry that is there was there before, and no more than its flag has changed. -/
theorem Tends.get?_was {k : Key} {e' : Entry} (tends : Tends l l') (sound : l.store.Sound)
    (found' : l'.store.get? k = some e') :
    ∃ e discarded, l.store.get? k = some e ∧ e' = { e with discarded } := by
  have was := tends.preserves (motive := fun l' => ∀ k e', l'.store.get? k = some e' →
    ∃ e discarded, l.store.get? k = some e ∧ e' = { e with discarded }) sound
    (fun k e found => ⟨e, e.discarded, found, rfl⟩) ?flag ?without
  · exact was k e' found'
  case flag =>
    intro l₁ k₁ discarded was k e' found'
    rw [Store.get?_update] at found'
    split at found'
    · obtain ⟨e₁, found₁, rfl⟩ := Option.map_eq_some_iff.mp found'
      obtain ⟨e, -, found, rfl⟩ := was _ e₁ found₁
      exact ⟨e, discarded, by rwa [‹k = k₁›], rfl⟩
    · exact was k e' found'
  case without =>
    intro l₁ k₁ e₁ p found₁ _ _ was k e' found'
    rw [Store.get?_without found₁] at found'
    split at found'
    · exact absurd found' (by simp)
    · exact was k e' found'

/-- An entry that is not finished stays, and no more than its flag changes. -/
theorem Tends.get?_of_unfinished {k : Key} {e : Entry} (tends : Tends l l') (sound : l.store.Sound)
    (found : l.store.get? k = some e) (unfinished : e.status.isFinished = false) :
    ∃ discarded, l'.store.get? k = some { e with discarded } := by
  refine tends.preserves
    (motive := fun l' => ∃ discarded, l'.store.get? k = some { e with discarded }) sound
    ⟨e.discarded, found⟩ ?flag ?without
  case flag =>
    intro l k' discarded' unfinished
    obtain ⟨discarded, found⟩ := unfinished
    rw [Store.get?_update]
    split
    · next same =>
        subst same
        exact ⟨discarded', by rw [found]; rfl⟩
    · exact ⟨discarded, found⟩
  case without =>
    intro l k' e' p found' finished _ stays
    obtain ⟨discarded, found⟩ := stays
    refine ⟨discarded, ?_⟩
    rw [Store.get?_without found', if_neg ?_]
    · exact found
    · rintro rfl
      obtain rfl := Option.some.inj (found.symm.trans found')
      exact absurd (finished.symm.trans unfinished) (by simp)

end Log

namespace Session

open Log (Change Changes Tend Tends)

variable {reword : Key → Kind → Prop} {s s' : Session}

/-- Beside messages no number is given. -/
theorem nextSequence_tends {l l' : Log} (tends : Tends l l') (sound : l.store.Sound) :
    l'.store.nextSequence = l.store.nextSequence :=
  tends.preserves (motive := fun l' => l'.store.nextSequence = l.store.nextSequence) sound rfl
    (fun _ _ _ same => same)
    fun l' k e p _ _ _ same => (l'.store.nextSequence_without k p e.id).trans same

/-! ## Evictions -/

theorem evict_tends (s : Session) (k : Key) : Tends s.log (s.evict k).2.log := by
  have tend : Tend s.log { s.log with store := (s.store.evict k).2 } := .evict s.log k
  rw [evict]
  split
  · exact .refl
  · split
    · exact .refl
    · split
      · next same =>
          rw [same] at tend
          exact .single tend
      · next same =>
          rw [same] at tend
          exact .single tend

theorem enforceHistoryCap_tends (s : Session) : Tends s.log s.enforceHistoryCap.2.log := by
  have all : Tends s.log (s.evictAll s.victims).2.log :=
    evictAll_induct (motive := fun s' => Tends s.log s'.log) .refl
      (fun s' k before => before.trans (evict_tends s' k)) s.victims
  rcases enforceHistoryCap_cases s with same | ⟨-, ⟨-, same⟩ | ⟨-, same⟩⟩
  · rw [same]
  · rw [same]
    exact all
  · rw [same]
    exact all

/-! ## Flags -/

theorem flagEach_tends (l : Log) (p : Nat → Bool) (flags : List (Key × Nat)) :
    Tends l { l with store := Store.flagEach p flags l.store } := by
  induction flags generalizing l with
  | nil => exact .refl
  | cons flag flags ih => exact .head (.flag l flag.1 (p flag.2)) (ih _)

theorem partition_tends (l : Log) (f : Fork) : Tends l { l with store := f.partition l.store } :=
  flagEach_tends l f.discards l.store.order.zipIdx

theorem markAppended_tends (l : Log) (f : Fork) (k : Key) :
    Tends l { l with store := f.markAppended l.store k } := by
  rw [Fork.markAppended]
  split
  · exact .single (.flag l k true)
  · exact .refl

theorem resolveFork_tends (s : Session) : Tends s.log s.resolveFork.log := by
  rw [resolveFork]
  split
  · exact partition_tends s.log .live
  · exact .refl

theorem afterFork_tends (s : Session) : Tends s.log s.afterFork.log := by
  rw [afterFork]
  split
  · exact .refl
  · exact enforceHistoryCap_tends (s.moveWindow Viewport.scrollToEnd)

theorem applyFork_tends {r : Except ForkError Fork × Store} (moved : s.fork.Moved s.store r) :
    Tends s.log (s.applyFork r).2.log := by
  cases moved with
  | empty => exact .refl
  | turned f =>
      exact (partition_tends s.log f).trans
        (afterFork_tends { s with fork := f, store := f.partition s.store })
  | stays live => exact afterFork_tends { s with fork := .live }

/-! ## Messages -/

theorem afterAppend_tends (s : Session) (k : Key) : Tends s.log (s.afterAppend k).log :=
  (markAppended_tends s.log s.fork k).trans (enforceHistoryCap_tends
    ({ s with store := s.fork.markAppended s.store k }.moveWindow Viewport.onAppend))

theorem ingest_tends (s : Session) (m : Message) (now : Instant) :
    Tends (s.log.take m now) (s.ingest m now).2.log := by
  rw [ingest, Log.take, log]
  generalize s.correlator.apply s.store m now = r
  simp only
  split
  · exact .refl
  · next o _ =>
      cases o with
      | appended k => exact afterAppend_tends { s with correlator := r.correlator, store := r.store } k
      | _ => exact .refl

/-! ## Actions -/

theorem log_eq_of_basis (same : s'.basis = s.basis) : s'.log = s.log :=
  congrArg (fun b : Basis => Log.mk b.correlator b.store) same

/-- An action takes a message in, or none; beside that it flags entries and evicts them. -/
theorem perform_course (s : Session) (a : Action) :
    (∃ s₁ m now, s.intake? a = some (s₁, m, now) ∧ Tends s.log s₁.log ∧
      Tends (s₁.log.take m now) (s.perform a).log) ∨
    s.intake? a = none ∧ Tends s.log (s.perform a).log := by
  cases bears s a with
  | intake s₁ m now taken left =>
      refine .inl ⟨s₁, m, now, taken, ?_, ?_⟩
      · rcases intake?_cases taken with ⟨-, -, rfl⟩ | ⟨draft, text, rfl, -⟩
        · exact .refl
        · exact resolveFork_tends { s with draft }
      · rw [log_eq_of_basis left]
        exact ingest_tends s₁ m now
  | card r other moved left =>
      rw [log_eq_of_basis left]
      exact .inr ⟨other, applyFork_tends (moved_of_cardMove? moved)⟩
  | trim is =>
      subst is
      exact .inr ⟨rfl, enforceHistoryCap_tends s⟩
  | evict k is =>
      subst is
      exact .inr ⟨rfl, evict_tends s k⟩
  | connection free other unmoved connection reconnects left =>
      have same : (s.perform a).log = s.log :=
        congrArg (fun b : Basis => Log.mk b.correlator b.store) left
      exact .inr ⟨other, same ▸ .refl⟩
  | aside other unmoved left => exact .inr ⟨other, log_eq_of_basis left ▸ .refl⟩

/-- An action is an acknowledgement that names the entry of a key, and gives it this kind. -/
def Rewords (s : Session) (a : Action) (k : Key) (kind : Kind) : Prop :=
  ∃ id author text now, a = .handle (.inputAcknowledged (some id) author text) now ∧
    s.store.keyOf? id = some k ∧ kind = .instruction author text true

theorem perform_changes (s : Session) (a : Action) :
    Changes (s.Rewords a) s.log (s.perform a).log := by
  rcases perform_course s a with ⟨s₁, m, now, taken, before, after⟩ | ⟨-, tends⟩
  · refine before.changes.trans (Relation.ReflTransGen.trans ?_ after.changes)
    refine s₁.correlator.apply_changes s₁.store m now fun id author text k is named => ?_
    rcases intake?_cases taken with ⟨is_handled, -, same⟩ | ⟨draft, text', -, submitted⟩
    · exact ⟨id, author, text, now, is ▸ is_handled, same ▸ named, rfl⟩
    · exact absurd (is.symm.trans submitted) (by simp [submission])
  · exact tends.changes

/-! ## Runs -/

theorem coherent_log_start (c : Config) : (start c).log.Coherent :=
  Log.coherent_empty _ rfl c.retiredIds

theorem coherent_log_run (holds : s.log.Coherent) (actions : List Action) :
    (s.run actions).log.Coherent :=
  run_induct (motive := fun s => s.log.Coherent) holds actions fun s a _ holds =>
    (perform_changes s a).coherent holds

/-- Somewhere in a run an acknowledgement gives the entry of a key this kind. -/
def Reworded (s : Session) (actions : List Action) (k : Key) (kind : Kind) : Prop :=
  ∃ before a after, actions = before ++ a :: after ∧ (s.run before).Rewords a k kind

theorem run_append (s : Session) (actions more : List Action) :
    s.run (actions ++ more) = (s.run actions).run more :=
  List.foldl_append

/-- The log that a run leaves continues the one it found. -/
theorem continues_run (holds : s.log.Coherent) (actions : List Action) :
    Log.Continues (s.Reworded actions) s.log (s.run actions).log := by
  induction actions using List.reverseRecOn with
  | nil => exact .refl s.log
  | append_singleton actions a ih =>
      rw [run_append]
      have last := (perform_changes (s.run actions) a).continues (coherent_log_run holds actions)
      refine (ih.mono ?_).trans (last.mono ?_)
      · rintro k kind ⟨before, a', after, rfl, rewords⟩
        exact ⟨before, a', after ++ [a], by simp, rewords⟩
      · intro k kind rewords
        exact ⟨actions, a, [], rfl, rewords⟩

/-- An entry of a later state with the number of an entry is that entry, later on. -/
theorem follows_run {k k' : Key} {e e' : Entry} (holds : s.log.Coherent) (later : List Action)
    (found : s.store.get? k = some e) (found' : (s.run later).store.get? k' = some e')
    (same : e'.sequence = e.sequence) : k' = k ∧ e.Follows (s.Reworded later k) e' := by
  have sound : s.store.Sound := holds.sound
  have below : e.sequence < s.store.nextSequence := sound.sequence_lt_next found
  obtain ⟨e₀, found₀, follows⟩ :=
    (continues_run holds later).entries k' e' found' (same ▸ below)
  have number : e'.sequence = e₀.sequence := congrArg Prod.snd follows.name
  obtain rfl := sound.key_of_sequence found₀ found (number.symm.trans same)
  obtain rfl := Option.some.inj (found.symm.trans found₀)
  exact ⟨rfl, follows⟩

end Session

end Chronicle
