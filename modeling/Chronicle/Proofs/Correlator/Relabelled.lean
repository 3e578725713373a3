import Chronicle.Proofs.Correlator
import Chronicle.Proofs.Store.Relabelled

/-!
# Messages under other labels

Which ids entries have, and which of them are discarded, makes no difference to what a message does, as long
as the id that the message is about is the same: the one it names, or one that is to be minted
(`apply_relabels`).  It leaves what it leaves otherwise, under the other labels.  All that can differ of the
result is the id in a refusal, where that is the id of the entry which refuses and not of the message.
-/

namespace Chronicle

/-! ## Changes of an entry -/

namespace Entry

variable (r : Relabel) (e : Entry) (now : Instant)

theorem relabel_record (line : String) (bytes lines : Nat) :
    (e.record line bytes lines now).relabel r = (e.relabel r).record line bytes lines now :=
  rfl

theorem relabel_complete (codes : List Int) (output : String) (summary : Option String) :
    (e.complete codes output summary now).relabel r =
      (e.relabel r).complete codes output summary now :=
  rfl

theorem relabel_think (text : String) : (e.think text now).relabel r = (e.relabel r).think text now :=
  rfl

theorem relabel_thinkLast (text : String) :
    ((e.think text now).finish .completed now).relabel r =
      ((e.relabel r).think text now).finish .completed now :=
  rfl

theorem relabel_confirm (author text : String) :
    (e.confirm author text now).relabel r = (e.relabel r).confirm author text now := by
  by_cases finished : e.status.isFinished = true <;> simp [confirm, relabel, finish, finished]

theorem relabel_closeBurst : (e.closeBurst now).relabel r = (e.relabel r).closeBurst now := by
  by_cases runs : (e.status == .running) = true <;>
    simp [closeBurst, relabel, finish, isRunning, runs]

end Entry

/-! ## Results -/

/-- What is said of an entry that output is streamed to and that is no tool. -/
def IngestionError.notTool (label : String) (id : CorrelationId) : IngestionError :=
  .malformed label ("entry '" ++ id.display ++ "' does not take tool output")

/-- The results are the same, or refusals for the same reason by the same entry. -/
inductive Relabel.Alike (r : Relabel) :
    Except IngestionError Outcome → Except IngestionError Outcome → Prop where
  | same (result : Except IngestionError Outcome) : Alike r result result
  | duplicate (id : CorrelationId) (label : String) :
      Alike r (.error (.duplicateCorrelation id label)) (.error (.duplicateCorrelation (r.id id) label))
  | notRunning (id : CorrelationId) (label : String) :
      Alike r (.error (.notRunning id label)) (.error (.notRunning (r.id id) label))
  | notTool (id : CorrelationId) (label : String) :
      Alike r (.error (.notTool label id)) (.error (.notTool label (r.id id)))

theorem Relabel.Alike.eq {r : Relabel} {result result' : Except IngestionError Outcome}
    (alike : r.Alike result result') (plain : ∀ id, r.id id = id) : result' = result := by
  cases alike with
  | same => rfl
  | duplicate id label => rw [plain]
  | notRunning id label => rw [plain]
  | notTool id label => rw [plain]

/-- The second is what a message leaves under other labels, where it leaves the first. -/
structure Ingested.Relabels (r : Relabel) (x x' : Ingested) : Prop where
  result : r.Alike x.result x'.result
  correlator : x'.correlator = x.correlator
  store : x'.store = x.store.relabel r

theorem Ingested.Relabels.of_eq {r : Relabel} {result : Except IngestionError Outcome}
    {c : Correlator} {s s' : Store} (same : s' = s.relabel r) :
    Relabels r ⟨result, c, s⟩ ⟨result, c, s'⟩ :=
  ⟨.same result, rfl, same⟩

namespace Correlator

open Store Ingested

variable (r : Relabel) (c : Correlator) (s : Store) (now : Instant) (label : String)

/-! ## Starting an entry -/

theorem closeThoughts_relabel :
    c.closeThoughts (s.relabel r) now =
      ((c.closeThoughts s now).1, (c.closeThoughts s now).2.relabel r) := by
  obtain ⟨threshold, thoughts⟩ := c
  simp only [closeThoughts, Prod.mk.injEq, true_and]
  induction thoughts generalizing s with
  | nil => rfl
  | cons k rest ih =>
      rw [List.foldl_cons, List.foldl_cons, ← ih,
        relabel_update r s k fun e => e.relabel_closeBurst r now]

section Named

variable {id : CorrelationId} (fixed : r.id id = id)
include fixed

theorem start_relabel (kind : Kind) (status : Status) :
    c.start (s.relabel r) id kind status now =
      ((c.start s id kind status now).1, (c.start s id kind status now).2.1,
        (c.start s id kind status now).2.2.relabel r) := by
  have appended := relabel_append r (c.closeThoughts s now).2 id kind status now
  rw [fixed] at appended
  simp only [start, closeThoughts_relabel, appended]

theorem startNew_relabels (kind : Kind) (status : Status) :
    Relabels r (c.startNew s label id kind status now)
      (c.startNew (s.relabel r) label id kind status now) := by
  have seen := hasSeen_relabel r s id
  rw [fixed] at seen
  rw [startNew, startNew, seen, start_relabel r c s now fixed]
  split <;> exact .of_eq rfl

/-! ## Tools -/

theorem runningTool_relabel : runningTool (s.relabel r) id label = runningTool s id label := by
  have known := keyOf?_relabel r s id
  rw [fixed] at known
  simp only [runningTool, known, get?_relabel]
  cases s.keyOf? id with
  | none => rfl
  | some k =>
      simp only
      cases s.get? k <;> rfl

theorem updateTool_relabels {f : Entry → Entry}
    (commutes : ∀ e, (f e).relabel r = f (e.relabel r)) :
    Relabels r (c.updateTool s id label f) (c.updateTool (s.relabel r) id label f) := by
  rw [updateTool, updateTool, runningTool_relabel r s label fixed]
  cases runningTool s id label with
  | error e => exact .of_eq rfl
  | ok k => exact .of_eq (relabel_update r s k commutes).symm

theorem completeTool_relabels (codes : List Int) (output : String) (summary : Option String) :
    Relabels r (c.completeTool s label id codes output summary now)
      (c.completeTool (s.relabel r) label id codes output summary now) := by
  rw [completeTool, completeTool, runningTool_relabel r s label fixed]
  cases runningTool s id label with
  | error e => exact .of_eq rfl
  | ok k =>
      refine .of_eq ?_
      rw [relabel_releaseLease, relabel_update r s k fun e => e.relabel_complete r now codes output summary]

/-! ## Thoughts -/

theorem thoughtDelta_relabels (text : String) (done : Bool) :
    Relabels r (c.thoughtDelta s label id text done now)
      (c.thoughtDelta (s.relabel r) label id text done now) := by
  have known := keyOf?_relabel r s id
  have seen := hasSeen_relabel r s id
  rw [fixed] at known seen
  simp only [thoughtDelta, known, get?_relabel, seen, start_relabel r c s now fixed]
  cases s.keyOf? id with
  | none =>
      simp only
      split <;> exact .of_eq rfl
  | some k =>
      simp only
      cases s.get? k with
      | none => exact .of_eq rfl
      | some e =>
          have kind : (e.relabel r).kind = e.kind := rfl
          have running : (e.relabel r).isRunning = e.isRunning := rfl
          simp only [Option.map_some, kind, running]
          split
          · exact .of_eq rfl
          · split
            · exact .of_eq rfl
            · split
              · exact .of_eq (relabel_update r s k fun e => e.relabel_thinkLast r now text).symm
              · exact .of_eq (relabel_update r s k fun e => e.relabel_think r now text).symm

end Named

theorem streamDelta_relabels (target : Key) (chunk : String) :
    Relabels r (c.streamDelta s label target chunk now)
      (c.streamDelta (s.relabel r) label target chunk now) := by
  simp only [streamDelta, get?_relabel]
  cases s.get? target with
  | none => exact .of_eq rfl
  | some e =>
      have kind : (e.relabel r).kind = e.kind := rfl
      have running : (e.relabel r).isRunning = e.isRunning := rfl
      simp only [Option.map_some, kind, running]
      split
      · exact ⟨.notRunning e.id label, rfl, rfl⟩
      · split
        · exact ⟨.notTool e.id label, rfl, rfl⟩
        · exact .of_eq (relabel_update r s target fun e => e.relabel_record r now _ _ _).symm

/-! ## Acknowledgements -/

theorem latestUnconfirmed?_relabel :
    latestUnconfirmed? (s.relabel r) = latestUnconfirmed? s := by
  rw [latestUnconfirmed?, latestUnconfirmed?, entries_relabel, ← List.map_reverse,
    List.findSome?_map]
  rfl

theorem acknowledged?_relabel {id : Option CorrelationId} (fixed : ∀ id', id = some id' → r.id id' = id')
    (text : String) : c.acknowledged? (s.relabel r) id text = c.acknowledged? s id text := by
  have known : id.bind (s.relabel r).keyOf? = id.bind s.keyOf? := by
    cases id with
    | none => rfl
    | some id =>
        have known := keyOf?_relabel r s id
        rwa [fixed id rfl] at known
  simp only [acknowledged?, similarInstruction?, known, latestUnconfirmed?_relabel]

theorem acknowledge_relabels {id : Option CorrelationId}
    (fixed : ∀ id', id = some id' → r.id id' = id')
    (kept : id = none → ∀ sort, r.id (.mint sort s.nextSequence) = .mint sort s.nextSequence)
    (author text : String) :
    Relabels r (c.acknowledge s label id author text now)
      (c.acknowledge (s.relabel r) label id author text now) := by
  simp only [acknowledge, acknowledged?_relabel r c s fixed, get?_relabel]
  cases c.acknowledged? s id text with
  | some k =>
      simp only
      cases s.get? k with
      | none => exact .of_eq rfl
      | some e =>
          have kind : (e.relabel r).kind = e.kind := rfl
          simp only [Option.map_some, kind]
          split
          · exact ⟨.duplicate e.id label, rfl, rfl⟩
          · exact .of_eq (relabel_update r s k fun e => e.relabel_confirm r now author text).symm
  | none =>
      cases id with
      | some id => exact startNew_relabels r c s now label (fixed id rfl) _ .completed
      | none =>
          have next : (s.relabel r).nextSequence = s.nextSequence := rfl
          simp only [next, start_relabel r c s now (kept rfl "input")]
          exact .of_eq rfl

/-! ## Every message -/

theorem apply_relabels (m : Message) (fixed : ∀ id, m.id? = some id → r.id id = id)
    (kept : m.id? = none → ∀ sort, r.id (.mint sort s.nextSequence) = .mint sort s.nextSequence) :
    Relabels r (c.apply s m now) (c.apply (s.relabel r) m now) := by
  cases m with
  | thoughtDelta id text done => exact thoughtDelta_relabels r c s now _ (fixed id rfl) text done
  | toolStarted id tool command => exact startNew_relabels r c s now _ (fixed id rfl) _ .running
  | toolProgress id line bytes =>
      exact updateTool_relabels r c s _ (fixed id rfl) fun e => e.relabel_record r now line bytes 1
  | toolCompleted id codes output summary =>
      exact completeTool_relabels r c s now _ (fixed id rfl) codes output summary
  | streamDelta target chunk => exact streamDelta_relabels r c s now _ target chunk
  | fileEdit id path added removed => exact startNew_relabels r c s now _ (fixed id rfl) _ .completed
  | fileRead id path ranges => exact startNew_relabels r c s now _ (fixed id rfl) _ .completed
  | filesDeleted id paths =>
      unfold apply
      simp only
      split
      · exact .of_eq rfl
      · exact startNew_relabels r c s now _ (fixed id rfl) _ .completed
  | log id level message =>
      cases id with
      | some id =>
          exact updateTool_relabels r c s _ (fixed id rfl) fun e => e.relabel_record r now message 0 0
      | none =>
          have next : (s.relabel r).nextSequence = s.nextSequence := rfl
          unfold apply
          simp only [next, start_relabel r c s now (kept rfl "log")]
          exact .of_eq rfl
  | inputSubmitted id author text => exact startNew_relabels r c s now _ (fixed id rfl) _ .pending
  | inputAcknowledged id author text =>
      exact acknowledge_relabels r c s now _ (fun id' is => fixed id' is) kept author text
  | taskCompleted id summary => exact startNew_relabels r c s now _ (fixed id rfl) _ .completed
  | connectionError reason => exact .of_eq rfl
  | connectionRestored => exact .of_eq rfl
  | command c => exact .of_eq rfl

end Correlator

end Chronicle
