import Chronicle.Proofs.Correlator.Changes
import Chronicle.Proofs.Search
import Chronicle.Proofs.Session.Frames
import Chronicle.Proofs.Session.Refusal
import Chronicle.Proofs.Session.Rows
import Chronicle.Proofs.Session.Submission

/-!
# The search of a session

The hits of a session are remembered, and looked for again when an entry comes or goes and when a query
is given.  Between two looks they stay the same, and so do the keys of the entries; what may change is
what the entries say (`handle_glances`).

So the hits are those of the last look.  `searchInStep_iff` says when they are in step with what the
entries say now (`SearchInStep`): exactly while no entry has begun or ceased to contain the query since
then.
-/

namespace Chronicle

namespace Session

variable {s s' s'' : Session} {m : Message} {now : Instant}

/-- How many entries have come and gone. -/
def turnover (s : Session) : Nat := s.store.nextSequence + s.counters.evicted

/-- A message gives a query to look for. -/
def asks (s : Session) : Message → Bool
  | .command (.search _) => true
  | .command .submitDraft => (searchOf? s.draft).isSome
  | _ => false

/-- With a message the hits are looked for again. -/
def looks (s : Session) (m : Message) (now : Instant) : Bool :=
  s.asks m || (s.handle m now).2.turnover != s.turnover

/-- No entry has come or gone, and nothing has been looked for. -/
structure Quiet (s s' : Session) : Prop where
  order : s'.store.order = s.store.order
  turnover : s'.turnover = s.turnover
  query : s'.search.query = s.search.query
  hits : s'.search.hits = s.search.hits
  /-- The cursor may have gone to another hit. -/
  cursor : ∀ i, s'.search.cursor = some i →
    s.search.cursor = some i ∨ i < s'.search.hits.length

/-- Entries have come or gone, and the hits have been looked for again. -/
structure Looked (s s' : Session) : Prop where
  fresh : s'.search.Fresh s'.store
  turnover : s.turnover < s'.turnover

/-- What any message that gives no query comes to. -/
inductive Glances (s s' : Session) : Prop where
  | quiet (quiet : Quiet s s')
  | looked (looked : Looked s s')

/-! ## One after the other -/

theorem Quiet.refl (s : Session) : Quiet s s :=
  ⟨rfl, rfl, rfl, rfl, fun _ at_i => .inl at_i⟩

theorem Quiet.trans (first : Quiet s s') (rest : Quiet s' s'') : Quiet s s'' where
  order := rest.order.trans first.order
  turnover := rest.turnover.trans first.turnover
  query := rest.query.trans first.query
  hits := rest.hits.trans first.hits
  cursor i at_i := by
    rcases rest.cursor i at_i with at_i | inside
    · exact (first.cursor i at_i).imp_right fun inside => rest.hits ▸ inside
    · exact .inr inside

/-- Entries that change in place are in other slots, or say something else. -/
theorem Quiet.slots (order : s'.store.order = s.store.order)
    (next : s'.store.nextSequence = s.store.nextSequence) (search : s'.search = s.search)
    (evicted : s'.counters.evicted = s.counters.evicted) : Quiet s s' where
  order := order
  turnover := by rw [Session.turnover, next, evicted, Session.turnover]
  query := by rw [search]
  hits := by rw [search]
  cursor i at_i := .inl (search ▸ at_i)

/-- What is neither about the entries nor about the search. -/
theorem Quiet.aside (store : s'.store = s.store) (search : s'.search = s.search)
    (evicted : s'.counters.evicted = s.counters.evicted) : Quiet s s' :=
  .slots (congrArg Store.order store) (congrArg Store.nextSequence store) search evicted

theorem Glances.refl (s : Session) : Glances s s := .quiet (.refl s)

theorem Quiet.glances (first : Quiet s s') (rest : Glances s' s'') : Glances s s'' := by
  cases rest with
  | quiet quiet => exact .quiet (first.trans quiet)
  | looked looked => exact .looked ⟨looked.fresh, first.turnover ▸ looked.turnover⟩

theorem Glances.aside (first : Glances s s') (store : s''.store = s'.store)
    (search : s''.search = s'.search) (evicted : s''.counters.evicted = s'.counters.evicted) :
    Glances s s'' := by
  have rest : Quiet s' s'' := .aside store search evicted
  cases first with
  | quiet quiet => exact .quiet (quiet.trans rest)
  | looked looked =>
      refine .looked ⟨?_, rest.turnover ▸ looked.turnover⟩
      rw [store, search]
      exact looked.fresh

/-! ## Going from hit to hit -/

theorem jumpTo_quiet (s : Session) (index : Nat) :
    Quiet s (s.jumpTo index) ∧ (s.jumpTo index).store = s.store := by
  rw [jumpTo]
  split
  · exact ⟨.refl s, rfl⟩
  · next position at_hit =>
      obtain ⟨k, hit, -⟩ := Option.bind_eq_some_iff.mp at_hit
      have inside : index < s.search.hits.length := (List.getElem?_eq_some_iff.mp hit).1
      refine ⟨⟨rfl, rfl, rfl, rfl, fun i at_i => .inr ?_⟩, rfl⟩
      obtain rfl : index = i := Option.some.inj at_i
      exact inside

theorem jumpToOption_quiet (s : Session) (index : Option Nat) :
    Quiet s (s.jumpToOption index).2 := by
  cases index with
  | none => exact .refl s
  | some index => exact (jumpTo_quiet s index).1

theorem Quiet.fresh (quiet : Quiet s s') (store : s'.store = s.store)
    (fresh : s.search.Fresh s.store) : s'.search.Fresh s'.store where
  hits := by
    rw [quiet.hits, fresh.hits, Search.sought, Search.sought, Search.isActive, Search.isActive,
      quiet.query, store]
  cursor i at_i := by
    rcases quiet.cursor i at_i with at_i | inside
    · rw [quiet.hits]
      exact fresh.cursor i at_i
    · exact inside

/-- A query that is given is looked for. -/
theorem fresh_setQuery (s : Session) (query : String) :
    (s.setQuery query).search.Fresh (s.setQuery query).store := by
  have fresh : (Search.look s.store query).Fresh s.store := Search.fresh_refresh _ _
  rw [setQuery]
  generalize Search.look s.store query = search at fresh ⊢
  simp only
  split
  · exact fresh
  · next last _ =>
      obtain ⟨quiet, store⟩ := jumpTo_quiet { s with search } last
      exact quiet.fresh store fresh

/-! ## Entries that go -/

/-- The history cap takes nothing out, or looks for the hits again. -/
theorem enforceHistoryCap_glances (sound : s.store.Sound) : Glances s s.enforceHistoryCap.2 := by
  obtain ⟨count, nothing⟩ := evictAll_counted sound s.victims
  rcases enforceHistoryCap_cases s with same | ⟨-, ⟨none, same⟩ | ⟨some_gone, same⟩⟩
  · rw [same]
    exact .refl s
  · rw [same, nothing none]
    exact .refl s
  · rw [same]
    refine .looked ⟨Search.fresh_refresh _ _, ?_⟩
    have next := nextSequence_evictAll sound s.victims
    have gone := List.length_pos_of_ne_nil some_gone
    show s.store.nextSequence + s.counters.evicted <
      (s.evictAll s.victims).2.store.nextSequence + (s.evictAll s.victims).2.counters.evicted
    omega

theorem Glances.turnover_le (glances : Glances s s') : s.turnover ≤ s'.turnover := by
  cases glances with
  | quiet quiet => exact Nat.le_of_eq quiet.turnover.symm
  | looked looked => exact Nat.le_of_lt looked.turnover

/-! ## Entries that come -/

theorem turnover_withEntry (s : Session) (id : CorrelationId) (kind : Kind) (status : Status)
    (now : Instant) : (s.withEntry id kind status now).turnover = s.turnover + 1 := by
  obtain ⟨slots, marked⟩ := s.fork.markAppended_frame (s.store.append id kind status now).2
    (s.store.append id kind status now).1
  have next : (s.withEntry id kind status now).store.nextSequence = s.store.nextSequence + 1 :=
    (congrArg Store.nextSequence marked).trans (Store.nextSequence_append id kind status now s.store)
  have evicted : (s.withEntry id kind status now).counters.evicted = s.counters.evicted := rfl
  rw [turnover, next, evicted, turnover]
  exact Nat.add_right_comm _ _ _

/-- With a new entry the hits are looked for again, whatever the history cap does. -/
theorem afterAppend_looked (sound : s.store.Sound) (id : CorrelationId) (kind : Kind)
    (status : Status) (now : Instant) :
    Looked s ({ s with store := (s.store.append id kind status now).2 }.afterAppend
      (s.store.append id kind status now).1) where
  fresh := Search.fresh_refresh _ _
  turnover := by
    have sound' : (s.withEntry id kind status now).store.Sound :=
      (sound.append id kind status now).markAppended s.fork _
    have trimmed := (enforceHistoryCap_glances sound').turnover_le
    have grown := s.turnover_withEntry id kind status now
    show s.turnover < (s.withEntry id kind status now).enforceHistoryCap.2.turnover
    omega

theorem start_looked (sound : s.store.Sound) (c : Correlator) (id : CorrelationId) (kind : Kind)
    (status : Status) (now : Instant) :
    Looked s ({ s with
      correlator := c
      store := (s.correlator.start s.store id kind status now).2.2 }.afterAppend
        (s.correlator.start s.store id kind status now).1) := by
  obtain ⟨-, next, order⟩ := s.correlator.closeThoughts_frame s.store now
  have closing : Quiet s
      { s with correlator := c, store := (s.correlator.closeThoughts s.store now).2 } :=
    .slots order next rfl rfl
  have looked := afterAppend_looked
    (s := { s with correlator := c, store := (s.correlator.closeThoughts s.store now).2 })
    (s.correlator.sound_closeThoughts sound now) id kind status now
  exact ⟨looked.fresh, closing.turnover ▸ looked.turnover⟩

theorem ingest_glances (sound : s.store.Sound) (m : Message) (now : Instant) :
    Glances s (s.ingest m now).2 := by
  have effect := s.correlator.apply_effect s.store m now
  rw [ingest]
  generalize s.correlator.apply s.store m now = r at effect ⊢
  cases effect with
  | refused e stale => exact .quiet (.aside rfl rfl (Counters.evicted_refuse _ e))
  | ignored other => exact .quiet (.aside rfl rfl rfl)
  | appended c id kind status => exact .looked (start_looked sound c id kind status now)
  | updated k f keep live => exact .quiet (.slots rfl rfl rfl rfl)
  | confirmed k f keep live => exact .quiet (.slots rfl rfl rfl rfl)
  | finished c k f keep live => exact .quiet (.slots rfl rfl rfl rfl)
  | ended k f keep live => exact .quiet (.slots rfl rfl rfl rfl)

/-! ## Forking and submitting -/

theorem partition_quiet (s : Session) (f : Fork) :
    Quiet s { s with fork := f, store := f.partition s.store } := by
  obtain ⟨slots, same⟩ := f.partition_frame s.store
  rw [same]
  exact .slots rfl rfl rfl rfl

theorem afterFork_glances (sound : s.store.Sound) : Glances s s.afterFork := by
  rw [afterFork]
  split
  · exact .quiet (.aside rfl rfl rfl)
  · have scroll : Quiet s (s.moveWindow Viewport.scrollToEnd) := .aside rfl rfl rfl
    exact scroll.glances (enforceHistoryCap_glances sound)

theorem turn_glances (sound : s.store.Sound) (f : Fork) :
    Glances s (s.applyFork (.ok f, f.partition s.store)).2 :=
  (partition_quiet s f).glances (afterFork_glances (sound.partition f))

theorem moveForkUp_glances (sound : s.store.Sound) : Glances s s.moveForkUp.2 := by
  unfold moveForkUp Fork.moveUp
  split
  · exact .refl s
  · exact turn_glances sound _

theorem moveForkDown_glances (sound : s.store.Sound) : Glances s s.moveForkDown.2 := by
  unfold moveForkDown Fork.moveDown
  split
  · exact .refl s
  · split
    · have stay : Quiet s { s with fork := .live } := .aside rfl rfl rfl
      exact stay.glances (afterFork_glances sound)
    · exact turn_glances sound _

theorem forkAt_glances (sound : s.store.Sound) (position : Nat) :
    Glances s (s.forkAt position).2 := by
  unfold forkAt Fork.moveTo
  split
  · exact .refl s
  · exact turn_glances sound _

theorem forkAtRow_glances (sound : s.store.Sound) (row : Nat) (now : Instant) :
    Glances s (s.forkAtRow row now).2 := by
  rw [forkAtRow]
  split
  · exact forkAt_glances sound _
  · exact .refl s

theorem resolveFork_quiet (s : Session) : Quiet s s.resolveFork := by
  rw [resolveFork]
  split
  · exact partition_quiet s .live
  · exact .refl s

theorem sound_resolveFork (sound : s.store.Sound) : s.resolveFork.store.Sound := by
  rw [resolveFork]
  split
  · exact sound.partition .live
  · exact sound

theorem cancelFork_glances (sound : s.store.Sound) : Glances s s.cancelFork := by
  rw [cancelFork]
  split
  · exact (resolveFork_quiet s).glances (afterFork_glances (sound_resolveFork sound))
  · exact .refl s

theorem submitText_glances (sound : s.store.Sound) (text : String) (now : Instant) :
    Glances s (s.submitText text now).2 := by
  have number : Quiet s.resolveFork s.resolveFork.numbered := .aside rfl rfl rfl
  have taken : Glances s (s.resolveFork.numbered.ingest (s.resolveFork.submission text) now).2 :=
    ((resolveFork_quiet s).trans number).glances
      (ingest_glances (s := s.resolveFork.numbered) (sound_resolveFork sound) _ now)
  rw [submitText_eq]
  exact taken.aside rfl rfl rfl

theorem submitInstruction_glances (s : Session) (sound : s.store.Sound) (text : String)
    (now : Instant) : Glances s (s.submitInstruction text now).2 := by
  rcases s.submitInstruction_cases text now with ⟨-, same⟩ | ⟨-, same⟩
  · rw [same]
    exact .refl s
  · rw [same]
    exact submitText_glances sound _ now

/-! ## Messages -/

theorem stopHero_quiet (s : Session) : Quiet s s.stopHero.2 := by
  rcases stopHero_cases s with same | ⟨tokens, id, -, same⟩
  · rw [same]
    exact .refl s
  · rw [same]
    exact .aside rfl rfl rfl

/-- A message either gives a query, and that is looked for, or it gives none. -/
def Heeds (s : Session) (m : Message) (s' : Session) : Prop :=
  (s.asks m = true ∧ s'.search.Fresh s'.store) ∨ (s.asks m = false ∧ Glances s s')

/-- A draft that is a search gives a query, any other is an instruction. -/
theorem submitDraft_heeds (sound : s.store.Sound) (now : Instant) :
    s.Heeds (.command .submitDraft) (s.submitDraft now).2 := by
  have cleared : Quiet s { s with draft := "" } := .aside rfl rfl rfl
  rw [submitDraft, Heeds, asks]
  cases searchOf? s.draft with
  | some query => exact .inl ⟨rfl, fresh_setQuery { s with draft := "" } query⟩
  | none =>
      simp only
      have given := submitInstruction_glances { s with draft := "" } sound s.draft now
      exact .inr ⟨rfl, cleared.glances given⟩

theorem applyCommand_heeds (sound : s.store.Sound) (c : Command) (now : Instant) :
    s.Heeds (.command c) (s.applyCommand c now).2 := by
  cases c with
  | moveForkUp => exact .inr ⟨rfl, moveForkUp_glances sound⟩
  | moveForkDown => exact .inr ⟨rfl, moveForkDown_glances sound⟩
  | cancelFork => exact .inr ⟨rfl, cancelFork_glances sound⟩
  | forkAt position => exact .inr ⟨rfl, forkAt_glances sound position⟩
  | forkAtRow row => exact .inr ⟨rfl, forkAtRow_glances sound row now⟩
  | stopHero => exact .inr ⟨rfl, .quiet (stopHero_quiet s)⟩
  | submitDraft => exact submitDraft_heeds sound now
  | search query =>
      simp only [applyCommand]
      exact .inl ⟨rfl, fresh_setQuery s query⟩
  | searchNext => exact .inr ⟨rfl, .quiet (jumpToOption_quiet s _)⟩
  | searchPrevious => exact .inr ⟨rfl, .quiet (jumpToOption_quiet s _)⟩
  | _ => exact .inr ⟨rfl, .quiet (.aside rfl rfl rfl)⟩

theorem reconnect_quiet (s : Session) : Quiet s s.reconnect.2 := by
  rw [reconnect]
  split
  · exact .refl s
  · exact .aside rfl rfl rfl

theorem handle_heeds (sound : s.store.Sound) (m : Message) (now : Instant) :
    s.Heeds m (s.handle m now).2 := by
  cases m with
  | command c => exact applyCommand_heeds sound c now
  | connectionError reason => exact .inr ⟨rfl, .quiet (.aside rfl rfl rfl)⟩
  | connectionRestored => exact .inr ⟨rfl, .quiet (reconnect_quiet s)⟩
  | _ => exact .inr ⟨rfl, ingest_glances sound _ now⟩

/-- With a message that looks, the hits are found again; with any other they stay, and so do the keys. -/
theorem handle_cases (sound : s.store.Sound) (m : Message) (now : Instant) :
    (s.looks m now = true ∧ (s.handle m now).2.search.Fresh (s.handle m now).2.store) ∨
    (s.looks m now = false ∧ Quiet s (s.handle m now).2) := by
  rcases handle_heeds sound m now with ⟨asks, fresh⟩ | ⟨silent, glances⟩
  · exact .inl ⟨by rw [looks, asks, Bool.true_or], fresh⟩
  · cases glances with
    | quiet quiet => exact .inr ⟨by simp [looks, silent, quiet.turnover], quiet⟩
    | looked looked =>
        have changed := Nat.ne_of_gt looked.turnover
        exact .inl ⟨by simp [looks, silent, changed], looked.fresh⟩

/-! ## Since the last look -/

/-- The session as it was right after the last message that looked, if it was `seen` before. -/
def lastLook (seen s : Session) : List (Message × Instant) → Session
  | [] => seen
  | mn :: messages =>
    lastLook (if s.looks mn.1 mn.2 then (s.handle mn.1 mn.2).2 else seen) (s.handle mn.1 mn.2).2
      messages

/-- The hits of a session are those that were found in `seen`. -/
structure Since (seen s : Session) : Prop where
  sound : seen.store.Sound
  fresh : seen.search.Fresh seen.store
  order : s.store.order = seen.store.order
  query : s.search.query = seen.search.query
  hits : s.search.hits = seen.search.hits
  cursor : ∀ i, s.search.cursor = some i → i < s.search.hits.length

theorem Since.here (sound : s.store.Sound) (fresh : s.search.Fresh s.store) : Since s s :=
  ⟨sound, fresh, rfl, rfl, rfl, fresh.cursor⟩

theorem Since.quiet {seen : Session} (since : Since seen s) (quiet : Quiet s s') : Since seen s' where
  sound := since.sound
  fresh := since.fresh
  order := quiet.order.trans since.order
  query := quiet.query.trans since.query
  hits := quiet.hits.trans since.hits
  cursor i at_i := by
    rcases quiet.cursor i at_i with at_i | inside
    · rw [quiet.hits]
      exact since.cursor i at_i
    · exact inside

/-- A session knows after a run what it saw when it looked last. -/
theorem Since.handling {seen : Session} (since : Since seen s) (holds : s.IsPartitioned)
    (messages : List (Message × Instant)) :
    Since (lastLook seen s messages) (s.run (handling messages)) := by
  induction messages generalizing seen s with
  | nil => exact since
  | cons mn messages ih =>
      have holds' : (s.handle mn.1 mn.2).2.IsPartitioned := holds.run [.handle mn.1 mn.2]
      refine ih (s := (s.handle mn.1 mn.2).2) ?_ holds'
      rcases handle_cases holds.sound mn.1 mn.2 with ⟨looks, fresh⟩ | ⟨idle, quiet⟩
      · rw [looks]
        exact .here holds'.sound fresh
      · rw [idle]
        exact since.quiet quiet

/-! ## In step -/

/-- The hits are the entries that contain the query now. -/
structure SearchInStep (s : Session) : Prop where
  hits : s.search.isActive = true → s.search.hits = Search.hitsIn s.store s.search.query
  idle : s.search.isActive = false → s.search.hits = []
  cursor : ∀ i, s.search.cursor = some i → i < s.search.hits.length
  /-- The flag of a row is right for the text that the row shows. -/
  flagged : ∀ t, ∀ row ∈ (s.snapshot t).entryRows,
    row.isHit = (s.search.isActive && Search.finds s.search.query row.entry)
  /-- The number that is shown is that of the entries that contain the query. -/
  counted : ∀ v, s.searchView = some v →
    v.hits = (s.store.entries.filter fun ke => Search.finds s.search.query ke.2).length

theorem IsPartitioned.isHit_of_entryRows (holds : s.IsPartitioned) {t : Instant} {row : EntryRow}
    (mem : row ∈ (s.snapshot t).entryRows) : row.isHit = s.search.hits.contains row.key := by
  rw [(holds.entryRows_snapshot t).1, List.mem_append, List.mem_map, List.mem_map] at mem
  rcases mem with ⟨kep, -, rfl⟩ | ⟨kep, -, rfl⟩
  · rfl
  · rfl

/-- Where the list of hits is right, so is all that is shown of it. -/
theorem IsPartitioned.searchInStep (holds : s.IsPartitioned) (fresh : s.search.Fresh s.store) :
    s.SearchInStep where
  hits active := by rw [fresh.hits, Search.sought, if_pos active]
  idle idle := by rw [fresh.hits, Search.sought, idle]; rfl
  cursor := fresh.cursor
  flagged t row mem := by
    have found := (holds.found_of_entryRows mem).1
    rw [holds.isHit_of_entryRows mem, fresh.hits, Search.sought]
    cases active : s.search.isActive with
    | false => rfl
    | true =>
        rw [if_pos rfl, Bool.true_and, Bool.eq_iff_iff, List.contains_iff_mem,
          Search.mem_hitsIn holds.sound, found]
        simp
  counted v shown := by
    rw [searchView] at shown
    split at shown
    · next active =>
        obtain rfl := Option.some.inj shown
        rw [fresh.hits, Search.sought, if_pos active, Search.hitsIn, List.length_map]
    · exact absurd shown (by simp)

/-- The search is in step with the timeline exactly while no entry has begun or ceased to contain the
query since the hits were looked for. -/
theorem searchInStep_iff (c : Config) (messages : List (Message × Instant)) :
    ((start c).run (handling messages)).SearchInStep ↔
      ∀ k e e', (lastLook (start c) (start c) messages).store.get? k = some e →
        ((start c).run (handling messages)).store.get? k = some e' →
        Search.finds ((start c).run (handling messages)).search.query e' =
          Search.finds ((start c).run (handling messages)).search.query e := by
  have holds := (isPartitioned_start c).run (handling messages)
  have first : Since (start c) (start c) :=
    .here (isPartitioned_start c).sound (Search.fresh_empty _)
  have since := first.handling (isPartitioned_start c) messages
  generalize lastLook (start c) (start c) messages = seen at since
  generalize (start c).run (handling messages) = s at holds since
  have known : s.search.hits = s.search.sought seen.store := by
    rw [since.hits, since.fresh.hits, Search.sought, Search.sought, Search.isActive,
      Search.isActive, since.query]
  have same_iff : Search.hitsIn s.store s.search.query = Search.hitsIn seen.store s.search.query ↔ _ :=
    Search.hitsIn_eq_iff since.sound holds.sound since.order
  constructor
  · intro inStep k e e' found found'
    cases active : s.search.isActive with
    | true =>
        have hits := inStep.hits active
        rw [known, Search.sought, if_pos active] at hits
        exact same_iff.mp hits.symm k e e' found found'
    | false =>
        -- without a query there are no hits, and the empty query is contained in every entry
        rw [Search.finds_of_not_isActive active, Search.finds_of_not_isActive active]
  · intro same
    refine holds.searchInStep ⟨?_, since.cursor⟩
    rw [known, Search.sought, Search.sought, same_iff.mpr same]

/-- A search is made while a tool runs, and then the tool writes what is looked for. -/
def searchedTool : List (Message × Instant) :=
  [(.toolStarted (.producer "a") "bash" "make", 0), (.command (.search "error"), 0),
    (.toolProgress (.producer "a") "error: x" 8, 0)]

theorem not_searchInStep_searchedTool :
    ¬ ((start .standard).run (handling searchedTool)).SearchInStep := by
  intro inStep
  have hits := inStep.hits rfl
  exact absurd hits (by decide)

end Session

end Chronicle
