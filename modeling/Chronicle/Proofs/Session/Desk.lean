import Chronicle.Proofs.Session.Moves
import Chronicle.Proofs.Session.Submission

/-!
# Who submits, and under which number

Beside its entries a session keeps what it needs for instructions of its own: their author, the number of
the next one, and the requests that wait (`Session.desk`).  Messages and moves of the card leave all three
alone (`desk_ingest`, `desk_applyFork`).  The author is never another than the configured one
(`author_run`), and the number only ever grows (`nextLocal_le_run`), so no two submissions share an id.
-/

namespace Chronicle

namespace Session

variable {s : Session}

/-- What a session keeps for instructions of its own. -/
structure Desk where
  author : String
  nextLocal : Nat
  outbound : List Request

def desk (s : Session) : Desk := ⟨s.author, s.nextLocal, s.outbound⟩

/-! ## What leaves it alone -/

theorem desk_evict (s : Session) (k : Key) : (s.evict k).2.desk = s.desk := by
  obtain ⟨store, tokens, evicted, same⟩ := evict_frame s k
  rw [same]
  rfl

theorem desk_enforceHistoryCap (s : Session) : s.enforceHistoryCap.2.desk = s.desk := by
  obtain ⟨store, tokens, evicted, viewport, search, same⟩ := enforceHistoryCap_frame s
  rw [same]
  rfl

theorem desk_ingest (s : Session) (m : Message) (now : Instant) :
    (s.ingest m now).2.desk = s.desk := by
  rw [ingest]
  generalize s.correlator.apply s.store m now = r
  obtain ⟨result, correlator, store⟩ := r
  cases result with
  | error e => rfl
  | ok o =>
      cases o with
      | appended k => exact desk_enforceHistoryCap _
      | _ => rfl

theorem desk_afterFork (s : Session) : s.afterFork.desk = s.desk := by
  rw [afterFork]
  split
  · rfl
  · exact desk_enforceHistoryCap _

theorem desk_applyFork (s : Session) (r : Except ForkError Fork × Store) :
    (s.applyFork r).2.desk = s.desk := by
  obtain ⟨moved, store⟩ := r
  cases moved with
  | error e => rfl
  | ok fork => exact desk_afterFork _

theorem desk_forkAtRow (s : Session) (row : Nat) (now : Instant) :
    (s.forkAtRow row now).2.desk = s.desk := by
  rw [forkAtRow]
  split
  · exact desk_applyFork s _
  · rfl

theorem desk_resolveFork (s : Session) : s.resolveFork.desk = s.desk := by
  rw [resolveFork]
  split <;> rfl

theorem desk_cancelFork (s : Session) : s.cancelFork.desk = s.desk := by
  rw [cancelFork]
  split
  · exact (desk_afterFork _).trans (desk_resolveFork s)
  · rfl

theorem desk_jumpToOption (s : Session) (index : Option Nat) :
    (s.jumpToOption index).2.desk = s.desk := by
  obtain ⟨search, viewport, same⟩ := jumpToOption_frame s index
  rw [same]
  rfl

theorem desk_setQuery (s : Session) (query : String) : (s.setQuery query).desk = s.desk := by
  obtain ⟨search, viewport, same⟩ := setQuery_frame s query
  rw [same]
  rfl

theorem desk_subscribe (s : Session) (id : CorrelationId) : (s.subscribe id).2.desk = s.desk := by
  rcases subscribe_cases s id with same | ⟨k, same⟩
  · rw [same]
  · rw [same]
    rfl

theorem desk_reconnect (s : Session) : s.reconnect.2.desk = s.desk := by
  rw [reconnect]
  split <;> rfl

/-! ## Instructions and requests -/

/-- The author is the same, and numbers that were given are not given again. -/
structure Desk.Precedes (d d' : Desk) : Prop where
  author : d'.author = d.author
  nextLocal : d.nextLocal ≤ d'.nextLocal

theorem Desk.Precedes.refl (d : Desk) : d.Precedes d := ⟨rfl, Nat.le_refl _⟩

theorem Desk.Precedes.of_eq {d d' : Desk} (same : d' = d) : d.Precedes d' := same ▸ .refl d

theorem Desk.Precedes.trans {d d' d'' : Desk} (first : d.Precedes d') (rest : d'.Precedes d'') :
    d.Precedes d'' :=
  ⟨rest.author.trans first.author, Nat.le_trans first.nextLocal rest.nextLocal⟩

theorem le_unseenFrom (s : Store) (fuel n : Nat) : n ≤ unseenFrom s fuel n := by
  induction fuel generalizing n with
  | zero => exact Nat.le_refl n
  | succ fuel ih =>
      rw [unseenFrom]
      split
      · exact Nat.le_trans (Nat.le_succ n) (ih (n + 1))
      · exact Nat.le_refl n

theorem nextLocal_le_nextNumber (s : Session) : s.nextLocal ≤ s.nextNumber := le_unseenFrom _ _ _

/-- An instruction takes the first number that is free, and a request to carry it out waits. -/
theorem desk_submitText (s : Session) (text : String) (now : Instant) :
    (s.submitText text now).2.desk = ⟨s.author, s.resolveFork.nextNumber + 1, s.outbound ++
      [.submitInstruction (localId s.resolveFork.nextNumber) text s.forkAfter?]⟩ := by
  let request : Request :=
    .submitInstruction (localId s.resolveFork.nextNumber) text s.forkAfter?
  let taken : Session := (s.resolveFork.numbered.ingest (s.resolveFork.submission text) now).2
  calc (s.submitText text now).2.desk
    _ = { taken.desk with outbound := taken.desk.outbound ++ [request] } := by
        rw [submitText_eq]
        rfl
    _ = { s.resolveFork.desk with
          nextLocal := s.resolveFork.nextNumber + 1
          outbound := s.resolveFork.desk.outbound ++ [request] } := by
        rw [desk_ingest]
        rfl
    _ = ⟨s.author, s.resolveFork.nextNumber + 1, s.outbound ++ [request]⟩ := by
        rw [desk_resolveFork]
        rfl

theorem precedes_submitInstruction (s : Session) (text : String) (now : Instant) :
    s.desk.Precedes (s.submitInstruction text now).2.desk := by
  rcases s.submitInstruction_cases text now with ⟨-, same⟩ | ⟨-, same⟩
  · rw [same]
    exact .refl _
  · have nextLocal := congrArg Desk.nextLocal (desk_resolveFork s)
    have up := s.resolveFork.nextLocal_le_nextNumber
    rw [same, desk_submitText]
    refine ⟨rfl, Nat.le_trans (Nat.le_of_eq nextLocal.symm) (Nat.le_succ_of_le up)⟩

theorem precedes_submitDraft (s : Session) (now : Instant) :
    s.desk.Precedes (s.submitDraft now).2.desk := by
  rw [submitDraft]
  cases searchOf? s.draft with
  | some query =>
      simp only
      exact .of_eq (desk_setQuery { s with draft := "" } query)
  | none =>
      simp only
      exact precedes_submitInstruction { s with draft := "" } s.draft now

theorem precedes_stopHero (s : Session) : s.desk.Precedes s.stopHero.2.desk := by
  rcases stopHero_cases s with same | ⟨tokens, id, -, same⟩
  · rw [same]
    exact .refl _
  · rw [same]
    exact ⟨rfl, Nat.le_refl _⟩

theorem precedes_applyCommand (s : Session) (c : Command) (now : Instant) :
    s.desk.Precedes (s.applyCommand c now).2.desk := by
  cases c with
  | moveForkUp => exact .of_eq (desk_applyFork s _)
  | moveForkDown => exact .of_eq (desk_applyFork s _)
  | cancelFork => exact .of_eq (desk_cancelFork s)
  | forkAt position => exact .of_eq (desk_applyFork s _)
  | forkAtRow row => exact .of_eq (desk_forkAtRow s row now)
  | stopHero => exact precedes_stopHero s
  | submitDraft => exact precedes_submitDraft s now
  | search query =>
      simp only [applyCommand]
      exact .of_eq (desk_setQuery s query)
  | searchNext => exact .of_eq (desk_jumpToOption s _)
  | searchPrevious => exact .of_eq (desk_jumpToOption s _)
  | _ => exact .refl _

theorem precedes_handle (s : Session) (m : Message) (now : Instant) :
    s.desk.Precedes (s.handle m now).2.desk := by
  cases m with
  | command c => exact precedes_applyCommand s c now
  | connectionError reason => exact .refl _
  | connectionRestored => exact .of_eq (desk_reconnect s)
  | _ => exact .of_eq (desk_ingest s _ now)

theorem precedes_perform (s : Session) (a : Action) : s.desk.Precedes (s.perform a).desk := by
  cases a with
  | handle m now => exact precedes_handle s m now
  | moveForkUp => exact .of_eq (desk_applyFork s _)
  | moveForkDown => exact .of_eq (desk_applyFork s _)
  | forkAt position => exact .of_eq (desk_applyFork s _)
  | cancelFork => exact .of_eq (desk_cancelFork s)
  | submitInstruction text now => exact precedes_submitInstruction s text now
  | setQuery query => exact .of_eq (desk_setQuery s query)
  | searchNext => exact .of_eq (desk_jumpToOption s _)
  | searchPrevious => exact .of_eq (desk_jumpToOption s _)
  | subscribe id => exact .of_eq (desk_subscribe s id)
  | cancelToken token => exact .refl _
  | stopHero => exact precedes_stopHero s
  | takeOutbound => exact ⟨rfl, Nat.le_refl _⟩
  | enforceHistoryCap => exact .of_eq (desk_enforceHistoryCap s)
  | evict k => exact .of_eq (desk_evict s k)

theorem precedes_run (s : Session) (actions : List Action) :
    s.desk.Precedes (s.run actions).desk :=
  run_induct (motive := fun s' => s.desk.Precedes s'.desk) (.refl _) actions
    fun s' a _ before => before.trans (precedes_perform s' a)

/-- Instructions have the author of the configuration. -/
theorem author_run (c : Config) (actions : List Action) :
    ((start c).run actions).author = c.author :=
  (precedes_run (start c) actions).author

/-- The number of the next instruction only grows. -/
theorem nextLocal_le_run (s : Session) (actions : List Action) :
    s.nextLocal ≤ (s.run actions).nextLocal :=
  (precedes_run s actions).nextLocal

end Session

end Chronicle
