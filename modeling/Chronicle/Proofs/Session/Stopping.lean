import Chronicle.Proofs.Hero
import Chronicle.Proofs.Session.Cancelling
import Chronicle.Proofs.Session.Upkeep

/-!
# Which streams a stop reaches

A token is cancelled by whoever holds it, or by a stop of the hero: by one that finds the entry of the token
to be the candidate, after somebody has subscribed to it.  `HandsOut` and `StopsEntry` say of a run of
actions, without a look at the tokens that a session keeps, whom a token has been handed out for and which
entries have been stopped; `mem_cancelled_run` says that nothing else counts.

Entries are told apart by their numbers here, not by their keys: the place of an entry that has gone is used
again, and a stop must not reach across.
-/

namespace Chronicle

theorem Tokens.mem_cancelled_cancel (tokens : Tokens) (t t' : Nat) :
    t' ∈ (tokens.cancel t).cancelled ↔ t' ∈ tokens.cancelled ∨ t' = t := by
  rw [cancel]
  split
  · next already =>
      refine ⟨.inl, ?_⟩
      rintro (mem | rfl)
      · exact mem
      · exact (tokens.isCancelled_iff t').mp already
  · rw [List.mem_cons, or_comm]

namespace Session

variable {s : Session} {k k' : Key} {e e' : Entry} {n n' t t' : Nat} {a : Action}
  {before actions : List Action}

/-! ## What happens in a run -/

/-- At some point of a run, when the actions `before` are done, an action is as `p` says. -/
def Sometime (actions : List Action) (p : List Action → Action → Prop) : Prop :=
  ∃ before a, before ++ [a] <+: actions ∧ p before a

variable {p : List Action → Action → Prop}

theorem not_sometime_nil : ¬ Sometime [] p := by
  rintro ⟨before, a, upto, -⟩
  exact absurd (List.prefix_nil.mp upto) (by simp)

theorem sometime_concat : Sometime (actions ++ [a]) p ↔ Sometime actions p ∨ p actions a := by
  constructor
  · rintro ⟨before, b, upto, holds⟩
    rcases List.prefix_concat_iff.mp upto with last | upto
    · obtain ⟨rfl, only⟩ := List.append_inj' last rfl
      obtain rfl := List.singleton_inj.mp only
      exact .inr holds
    · exact .inl ⟨before, b, upto, holds⟩
  · rintro (⟨before, b, upto, holds⟩ | holds)
    · exact ⟨before, b, upto.trans (List.prefix_append _ _), holds⟩
    · exact ⟨actions, a, List.prefix_refl _, holds⟩

theorem Sometime.longer (holds : Sometime before p) (upto : before <+: actions) : Sometime actions p := by
  obtain ⟨earlier, b, upto', holds⟩ := holds
  exact ⟨earlier, b, upto'.trans upto, holds⟩

/-! ## Handing out -/

/-- The action is a subscription that is granted: it gives out `t` for the entry numbered `n`. -/
def Grants (s : Session) (a : Action) (n t : Nat) : Prop :=
  ∃ id u e, a = .subscribe id ∧ (s.subscribe id).1 = some u ∧ u.token = t ∧
    s.store.get? u.target = some e ∧ e.sequence = n

theorem grants_subscribe {id : CorrelationId} {u : Subscription} (granted : (s.subscribe id).1 = some u)
    (found : s.store.get? u.target = some e) :
    s.Grants (.subscribe id) n t ↔ n = e.sequence ∧ t = u.token := by
  constructor
  · rintro ⟨id', u', e', same, granted', rfl, found', rfl⟩
    obtain rfl := Action.subscribe.inj same
    obtain rfl := Option.some.inj (granted.symm.trans granted')
    obtain rfl := Option.some.inj (found.symm.trans found')
    exact ⟨rfl, rfl⟩
  · rintro ⟨rfl, rfl⟩
    exact ⟨id, u, e, rfl, granted, rfl, found, rfl⟩

theorem Tended.perform {given : Nat → Nat → Prop} (tended : Tended given s) (holds : s.log.Coherent)
    (a : Action) : Tended (fun n t => given n t ∨ s.Grants a n t) (s.perform a) := by
  by_cases subscribes : ∃ id, a = .subscribe id
  · obtain ⟨id, rfl⟩ := subscribes
    rcases s.subscribe_eq id with refused | ⟨k, e, lease, found, writes, granted⟩
    · have same : s.perform (.subscribe id) = s := congrArg Prod.snd refused
      rw [same]
      refine tended.congr fun n t => ⟨.inl, ?_⟩
      rintro (handed | ⟨id', u, e, is_it, granted, -⟩)
      · exact handed
      · obtain rfl := Action.subscribe.inj is_it
        exact absurd ((congrArg Prod.fst refused).symm.trans granted) (by simp)
    · have taken : s.perform (.subscribe id) = { s with tokens := (s.tokens.obtain k).2 } :=
        congrArg Prod.snd granted
      rw [taken]
      refine (tended.obtain holds.sound found writes).congr fun n t => or_congr_right ?_
      exact (grants_subscribe (congrArg Prod.fst granted) found).symm
  · have other (id : CorrelationId) : a ≠ .subscribe id := fun same => subscribes ⟨id, same⟩
    refine (tended.upkeep (upkeep_perform holds other)).congr fun n t => ⟨.inl, ?_⟩
    rintro (handed | ⟨id, u, e, same, -⟩)
    · exact handed
    · exact absurd same (other id)

/-- In a run of actions, `t` is given out for the entry numbered `n`. -/
def HandsOut (c : Config) (actions : List Action) (n t : Nat) : Prop :=
  Sometime actions fun before a => ((start c).run before).Grants a n t

theorem tended_run (c : Config) (actions : List Action) :
    Tended (HandsOut c actions) ((start c).run actions) := by
  induction actions using List.reverseRecOn with
  | nil => exact (tended_start c).congr fun n t => ⟨False.elim, not_sometime_nil⟩
  | append_singleton actions a ih =>
      rw [run_append]
      have holds := coherent_log_run (coherent_log_start c) actions
      exact (ih.perform holds a).congr fun n t => sometime_concat.symm

/-! ## Stops -/

/-- The hero is asked to stop, by a call or by a command. -/
def Action.IsStop (a : Action) : Prop := a = .stopHero ∨ ∃ now, a = .handle (.command .stopHero) now

/-- The entry would be the hero, and stands under this key. -/
def IsCandidate (s : Session) (k : Key) (e : Entry) : Prop :=
  (∃ p, Hero.candidate? s.store = some (k, p)) ∧ s.store.get? k = some e

theorem IsCandidate.unique (candidate : s.IsCandidate k e) (candidate' : s.IsCandidate k' e') :
    k = k' ∧ e = e' := by
  obtain ⟨⟨p, first⟩, found⟩ := candidate
  obtain ⟨⟨p', first'⟩, found'⟩ := candidate'
  obtain rfl : k = k' := congrArg Prod.fst (Option.some.inj (first.symm.trans first'))
  exact ⟨rfl, Option.some.inj (found.symm.trans found')⟩

theorem IsCandidate.isRunning (candidate : s.IsCandidate k e) (sound : s.store.Sound) :
    e.isRunning = true := by
  obtain ⟨⟨p, first⟩, found⟩ := candidate
  rw [Store.candidate?_eq, Option.map_eq_some_iff] at first
  obtain ⟨⟨⟨k', e'⟩, q⟩, last, same⟩ := first
  obtain rfl : k' = k := congrArg Prod.fst same
  have hero := (Store.isHero_of_heroAt? sound last).2
  obtain rfl := Option.some.inj ((sound.mem_entries.mp hero.mem).symm.trans found)
  exact hero.holds

/-- A candidate that is a tool is asked to stop, and the token that is held for it is cancelled. -/
theorem stopHero_of_tool (candidate : s.IsCandidate k e) (tool : e.kind.isToolUse = true) :
    ∃ cancelled, s.stopHero = (true, { s with
        outbound := s.outbound ++ [.stopTool e.id]
        tokens := { s.tokens with cancelled } }) ∧
      ∀ t, t ∈ cancelled ↔ t ∈ s.tokens.cancelled ∨ s.tokens.get? k = some t := by
  obtain ⟨⟨p, first⟩, found⟩ := candidate
  rw [stopHero, first]
  simp only [found]
  rw [if_pos tool]
  cases at_k : s.tokens.get? k with
  | none => exact ⟨s.tokens.cancelled, rfl, by simp⟩
  | some t₀ =>
      refine ⟨(s.tokens.cancel t₀).cancelled, ?_, ?_⟩
      · simp only
        rw [← Tokens.cancel_eq]
      · intro t
        rw [s.tokens.mem_cancelled_cancel, Option.some.injEq, eq_comm]

theorem stopHero_of_not (idle : ¬ ∃ k e, s.IsCandidate k e ∧ e.kind.isToolUse = true) :
    s.stopHero = (false, s) := by
  rw [stopHero]
  split
  · rfl
  · next k p first =>
      split
      · rfl
      · next e found => rw [if_neg fun tool => idle ⟨k, e, ⟨⟨p, first⟩, found⟩, tool⟩]

theorem stopHero_fst : s.stopHero.1 = true ↔ ∃ k e, s.IsCandidate k e ∧ e.kind.isToolUse = true := by
  by_cases tool : ∃ k e, s.IsCandidate k e ∧ e.kind.isToolUse = true
  · obtain ⟨k, e, candidate, uses⟩ := tool
    obtain ⟨cancelled, stopped, -⟩ := stopHero_of_tool candidate uses
    rw [stopped]
    exact ⟨fun _ => ⟨k, e, candidate, uses⟩, fun _ => rfl⟩
  · rw [stopHero_of_not tool]
    exact ⟨fun stopped => absurd stopped Bool.false_ne_true, fun uses => absurd uses tool⟩

/-- A stop cancels the token of the candidate, if that is a tool, and no other. -/
theorem mem_cancelled_stopHero (s : Session) (t : Nat) :
    t ∈ s.stopHero.2.tokens.cancelled ↔ t ∈ s.tokens.cancelled ∨
      ∃ k e, s.IsCandidate k e ∧ e.kind.isToolUse = true ∧ s.tokens.get? k = some t := by
  by_cases tool : ∃ k e, s.IsCandidate k e ∧ e.kind.isToolUse = true
  · obtain ⟨k, e, candidate, uses⟩ := tool
    obtain ⟨cancelled, stopped, mem⟩ := stopHero_of_tool candidate uses
    rw [stopped]
    refine (mem t).trans (or_congr_right ⟨fun at_k => ⟨k, e, candidate, uses, at_k⟩, ?_⟩)
    rintro ⟨k', e', candidate', -, at_k⟩
    obtain ⟨rfl, -⟩ := candidate.unique candidate'
    exact at_k
  · rw [stopHero_of_not tool]
    refine ⟨.inl, ?_⟩
    rintro (mem | ⟨k, e, candidate, uses, -⟩)
    · exact mem
    · exact absurd ⟨k, e, candidate, uses⟩ tool

theorem perform_of_isStop (stop : a.IsStop) : s.perform a = s.stopHero.2 := by
  rcases stop with rfl | ⟨now, rfl⟩ <;> rfl

theorem cancelled_perform (s : Session) (stops : ¬ a.IsStop) (token : ∀ t, a ≠ .cancelToken t) :
    (s.perform a).tokens.cancelled = s.tokens.cancelled := by
  cases a with
  | handle m now => exact cancelled_handle s (fun same => stops (.inr ⟨now, same ▸ rfl⟩)) now
  | moveForkUp => exact cancelled_applyFork s _
  | moveForkDown => exact cancelled_applyFork s _
  | forkAt position => exact cancelled_applyFork s _
  | cancelFork => exact cancelled_cancelFork s
  | submitInstruction text now =>
      rw [perform]
      exact cancelled_submitInstruction s text now
  | setQuery query =>
      rw [perform]
      exact cancelled_setQuery s query
  | searchNext => exact cancelled_jumpToOption s _
  | searchPrevious => exact cancelled_jumpToOption s _
  | subscribe id => exact cancelled_subscribe s id
  | cancelToken t => exact absurd rfl (token t)
  | stopHero => exact absurd (.inl rfl) stops
  | takeOutbound => rfl
  | enforceHistoryCap => exact cancelled_enforceHistoryCap s
  | evict k => exact cancelled_evict s k

/-- What one action cancels. -/
theorem mem_cancelled_perform (s : Session) (a : Action) (t : Nat) :
    t ∈ (s.perform a).tokens.cancelled ↔ t ∈ s.tokens.cancelled ∨ a = .cancelToken t ∨
      a.IsStop ∧ ∃ k e, s.IsCandidate k e ∧ e.kind.isToolUse = true ∧ s.tokens.get? k = some t := by
  by_cases stop : a.IsStop
  · have other : a ≠ .cancelToken t := by
      rintro rfl
      rcases stop with same | ⟨now, same⟩ <;> exact absurd same (by simp)
    rw [perform_of_isStop stop, mem_cancelled_stopHero]
    simp only [other, stop, true_and, false_or]
  · by_cases token : ∃ t, a = .cancelToken t
    · obtain ⟨t₀, rfl⟩ := token
      simp only [stop, false_and, or_false, Action.cancelToken.injEq]
      rw [eq_comm (a := t₀)]
      exact s.tokens.mem_cancelled_cancel t₀ t
    · have other (t : Nat) : a ≠ .cancelToken t := fun same => token ⟨t, same⟩
      rw [cancelled_perform s stop other]
      simp only [other, stop, false_and, or_false]

/-! ## Stops in a run -/

/-- In a run of actions, the hero is stopped while the entry numbered `n` is the candidate, after somebody has
subscribed to it.  What has finished is no candidate any more (`IsCandidate.isRunning`). -/
def StopsEntry (c : Config) (actions : List Action) (n : Nat) : Prop :=
  Sometime actions fun before a => a.IsStop ∧
    (∃ k e, ((start c).run before).IsCandidate k e ∧ e.sequence = n) ∧ ∃ t, HandsOut c before n t

/-- What is given out for the candidate is the token that is held for it, and there is one only for tools. -/
theorem IsCandidate.handsOut_iff {c : Config} (candidate : ((start c).run actions).IsCandidate k e) :
    HandsOut c actions e.sequence t ↔
      e.kind.isToolUse = true ∧ ((start c).run actions).tokens.get? k = some t := by
  have tended := tended_run c actions
  have running := candidate.isRunning (coherent_log_run (coherent_log_start c) actions).sound
  constructor
  · intro handed
    have at_k := tended.kept k e t candidate.2 running handed
    obtain ⟨e', found', writes, -⟩ := tended.held k t at_k
    obtain rfl := Option.some.inj (candidate.2.symm.trans found')
    exact ⟨(Entry.isWriting_iff.mp writes).2, at_k⟩
  · rintro ⟨-, at_k⟩
    obtain ⟨e', found', -, handed⟩ := tended.held k t at_k
    obtain rfl := Option.some.inj (candidate.2.symm.trans found')
    exact handed

/-- Whoever subscribes to an entry after it has been stopped gets a token that was there before. -/
theorem StopsEntry.handsOut {c : Config} (stopped : StopsEntry c before n) (upto : before <+: actions)
    (handed : HandsOut c actions n t) : HandsOut c before n t := by
  obtain ⟨earlier, b, upto', -, -, t', handed'⟩ := stopped
  have there : HandsOut c before n t' := handed'.longer ((List.prefix_append _ _).trans upto')
  obtain rfl := (tended_run c actions).single n t t' handed (there.longer upto)
  exact there

/-- After a run, a token is cancelled exactly if its holder did so, or a stop reached the entry that it is
for. -/
theorem mem_cancelled_run (c : Config) (actions : List Action) (t : Nat) :
    t ∈ ((start c).run actions).tokens.cancelled ↔
      (∃ n, HandsOut c actions n t ∧ StopsEntry c actions n) ∨ .cancelToken t ∈ actions := by
  induction actions using List.reverseRecOn with
  | nil =>
      constructor
      · intro mem
        exact absurd mem List.not_mem_nil
      · rintro (⟨n, handed, -⟩ | mem)
        · exact absurd handed not_sometime_nil
        · exact absurd mem List.not_mem_nil
  | append_singleton actions a ih =>
      have upto : actions <+: actions ++ [a] := List.prefix_append _ _
      rw [run_append, List.mem_append, List.mem_singleton]
      constructor
      · intro mem
        rcases (mem_cancelled_perform _ a t).mp mem with
          before | held | ⟨stop, k, e, candidate, tool, at_k⟩
        · rcases ih.mp before with ⟨n, handed, stopped⟩ | held
          · exact .inl ⟨n, handed.longer upto, stopped.longer upto⟩
          · exact .inr (.inl held)
        · exact .inr (.inr held.symm)
        · have handed := candidate.handsOut_iff.mpr ⟨tool, at_k⟩
          refine .inl ⟨e.sequence, handed.longer upto, ?_⟩
          exact sometime_concat.mpr (.inr ⟨stop, ⟨k, e, candidate, rfl⟩, t, handed⟩)
      · intro reached
        refine (mem_cancelled_perform _ a t).mpr ?_
        rcases reached with ⟨n, handed, stopped⟩ | held | held
        · rcases sometime_concat.mp stopped with stopped | ⟨stop, ⟨k, e, candidate, rfl⟩, -⟩
          · exact .inl (ih.mpr (.inl ⟨n, StopsEntry.handsOut stopped upto handed, stopped⟩))
          · rcases sometime_concat.mp handed with handed | ⟨id, u, e', same, -⟩
            · obtain ⟨tool, at_k⟩ := candidate.handsOut_iff.mp handed
              exact .inr (.inr ⟨stop, k, e, candidate, tool, at_k⟩)
            · -- what stops the hero subscribes to nothing
              rcases stop with stop | ⟨now, stop⟩ <;> exact absurd (same.symm.trans stop) (by simp)
        · exact .inl (ih.mpr (.inr held))
        · exact .inr (.inl held.symm)

/-- What a stop of the hero does, once `actions` have been done. -/
structure StopsExactly (c : Config) (actions : List Action) (s : Session) : Prop where
  /-- A token that was given out for an entry is cancelled exactly if a stop has reached the entry, or
  whoever holds the token has cancelled it. -/
  cancelled : ∀ n t, HandsOut c actions n t →
    (s.tokens.isCancelled t = true ↔ StopsEntry c actions n ∨ .cancelToken t ∈ actions)
  /-- There is one token for an entry, and one entry for a token. -/
  shared : ∀ n n' t t', HandsOut c actions n t → HandsOut c actions n' t' → (t = t' ↔ n = n')
  /-- The command is the call. -/
  command : ∀ now, s.handle (.command .stopHero) now = s.stopHero
  answer : s.stopHero.1 = true ↔ ∃ k e, s.IsCandidate k e ∧ e.kind.isToolUse = true
  /-- One request goes out, and the tokens that were given out for the candidate are cancelled. -/
  stopped : ∀ k e, s.IsCandidate k e → e.kind.isToolUse = true → ∃ cancelled,
    s.stopHero.2 = { s with
      outbound := s.outbound ++ [.stopTool e.id]
      tokens := { s.tokens with cancelled } } ∧
    ∀ t, t ∈ cancelled ↔ t ∈ s.tokens.cancelled ∨ HandsOut c actions e.sequence t
  idle : s.stopHero.1 = false → s.stopHero.2 = s

/-- A stop reaches the streams of the hero and no others, in every state that is reached. -/
theorem stopsExactly_run (c : Config) (actions : List Action) :
    StopsExactly c actions ((start c).run actions) where
  cancelled n t handed := by
    rw [Tokens.isCancelled_iff, mem_cancelled_run]
    refine or_congr_left ⟨?_, fun stopped => ⟨n, handed, stopped⟩⟩
    rintro ⟨n', handed', stopped⟩
    exact (tended_run c actions).apart n n' t handed handed' ▸ stopped
  shared n n' t t' handed handed' := by
    have tended := tended_run c actions
    constructor
    · rintro rfl
      exact tended.apart n n' t handed handed'
    · rintro rfl
      exact tended.single n t t' handed handed'
  command now := rfl
  answer := stopHero_fst
  stopped k e candidate tool := by
    obtain ⟨cancelled, stopped, mem⟩ := stopHero_of_tool candidate tool
    refine ⟨cancelled, congrArg Prod.snd stopped, fun t => ?_⟩
    rw [mem t, candidate.handsOut_iff, and_iff_right tool]
  idle still := by
    have none_stops : ¬ ∃ k e, ((start c).run actions).IsCandidate k e ∧ e.kind.isToolUse = true :=
      fun tool => absurd (still.symm.trans (stopHero_fst.mpr tool)) Bool.false_ne_true
    rw [stopHero_of_not none_stops]

/-- The first tool is stopped.  The second one has its place and its slot, but not its token. -/
example :
    ((start .standard).run [
      .handle (.toolStarted (.producer "a") "sh" "ls") 0, .subscribe (.producer "a"), .stopHero,
      .handle (.toolCompleted (.producer "a") [0] "" none) 1, .evict ⟨0, 0⟩,
      .handle (.toolStarted (.producer "b") "sh" "ls") 2, .subscribe (.producer "b")]).tokens =
    ⟨2, [(⟨0, 1⟩, 1)], [0]⟩ := by
  decide +kernel

end Session

end Chronicle
