import Chronicle.Proofs.Correlator.Changes
import Chronicle.Proofs.Store.Minted

/-!
# The timeline with its assertions

The operations on entries, the store and the correlator once more, each stopped by a `Breach` where an
assertion fails, and where a branch is taken that only a broken invariant leads to.  A function in which
neither can happen is called as it is.

On a sound store none of them stops, and each gives what the operation without assertions gives: the id of
a new entry has not been seen, because it was looked up or because minted ids carry numbers that are new
(`Store.Reserves`); an entry is ended by the statuses of a finished one; and what was found under a key
is there until it is taken out.
-/

namespace Chronicle

/-- What must not happen. -/
inductive Breach where
  /-- An entry is appended under an id that has been seen. -/
  | seenId (id : CorrelationId)
  /-- The slot that an entry is to be put into does not exist. -/
  | noSlot (index : Nat)
  /-- An entry is ended with a status that is not the last one. -/
  | notFinished (status : Status)
  /-- An entry has no position, or is not found under a key that was good a moment before. -/
  | lostEntry (key : Key)
  /-- An entry that is to be evicted, the history being too long, stays. -/
  | keptVictim (violation : EvictionViolation)
  /-- The flags are not as the fork says. -/
  | flagsDisagree
  /-- The instruction of the user is refused. -/
  | refusedInstruction (text : String)
deriving DecidableEq, Repr

@[simp] theorem ok_bind {α β : Type} (a : α) (f : α → Except Breach β) :
    (Except.ok a >>= f) = f a := rfl

/-! ## Entries -/

namespace Entry

def finishChecked (e : Entry) (status : Status) (now : Instant) : Except Breach Entry :=
  if status.isFinished then .ok (e.finish status now) else .error (.notFinished status)

def completeChecked (e : Entry) (codes : List Int) (output : String) (summary : Option String)
    (now : Instant) : Except Breach Entry :=
  { e with
    kind := match e.kind with
      | .toolUse t => .toolUse (t.complete codes output summary)
      | kind => kind }.finishChecked (.ofExitCodes codes) now

def thinkLastChecked (e : Entry) (text : String) (now : Instant) : Except Breach Entry :=
  (e.think text now).finishChecked .completed now

def confirmChecked (e : Entry) (author text : String) (now : Instant) : Except Breach Entry :=
  let e := { e with kind := .instruction author text true }
  if e.status.isFinished then .ok e else e.finishChecked .completed now

def closeBurstChecked (e : Entry) (now : Instant) : Except Breach Entry :=
  if e.isRunning then e.finishChecked .completed now else .ok e

theorem finishChecked_eq (e : Entry) {status : Status} (finished : status.isFinished = true)
    (now : Instant) : e.finishChecked status now = .ok (e.finish status now) :=
  if_pos finished

theorem completeChecked_eq (e : Entry) (codes : List Int) (output : String)
    (summary : Option String) (now : Instant) :
    e.completeChecked codes output summary now = .ok (e.complete codes output summary now) :=
  finishChecked_eq _ (status_ofExitCodes_isFinished codes) now

theorem thinkLastChecked_eq (e : Entry) (text : String) (now : Instant) :
    e.thinkLastChecked text now = .ok ((e.think text now).finish .completed now) :=
  finishChecked_eq _ rfl now

theorem confirmChecked_eq (e : Entry) (author text : String) (now : Instant) :
    e.confirmChecked author text now = .ok (e.confirm author text now) := by
  rw [confirmChecked, confirm]
  simp only
  split
  · rfl
  · exact finishChecked_eq _ rfl now

theorem closeBurstChecked_eq (e : Entry) (now : Instant) :
    e.closeBurstChecked now = .ok (e.closeBurst now) := by
  rw [closeBurstChecked, closeBurst]
  split
  · exact finishChecked_eq e rfl now
  · rfl

end Entry

/-! ## The store -/

namespace Store

variable {s : Store}

/-- Changes the entry of a key in place, if the change is one that may be made. -/
def updateChecked (s : Store) (k : Key) (f : Entry → Except Breach Entry) : Except Breach Store :=
  match s.get? k with
  | none => .ok s
  | some e => (f e).map fun e' => s.update k fun _ => e'

def appendChecked (s : Store) (id : CorrelationId) (kind : Kind) (status : Status) (now : Instant) :
    Except Breach (Key × Store) :=
  if s.hasSeen id then .error (.seenId id)
  else match s.free with
    | index :: _ =>
      if index < s.slots.size then .ok (s.append id kind status now) else .error (.noSlot index)
    | [] => .ok (s.append id kind status now)

/-- Once the key is out of the order, the entry has to be in its slot still. -/
def evictChecked (s : Store) (k : Key) :
    Except Breach (Except EvictionViolation Entry × Store) :=
  match s.get? k with
  | none => .ok (.error (.missing k), s)
  | some e =>
    if !e.status.isFinished then .ok (.error (.active k), s)
    else if e.discarded then .ok (.error (.discarded k), s)
    else match s.positionOf? k with
      | none => .error (.lostEntry k)
      | some position =>
        let cut := { s with order := s.order.eraseIdx position }
        match cut.get? k with
        | none => .error (.lostEntry k)
        | some e => .ok (.ok e, (cut.vacate k).retire e.id)

theorem updateChecked_eq (s : Store) (k : Key) {f : Entry → Except Breach Entry}
    {g : Entry → Entry} (same : ∀ e, f e = .ok (g e)) :
    s.updateChecked k f = .ok (s.update k g) := by
  rw [updateChecked]
  cases found : s.get? k with
  | none =>
      -- a change of an entry that is not there changes nothing
      have nothing : s.update k g = s.modifySlot k id := by
        refine modifySlot_congr fun slot at_k => ?_
        have empty : slot.entry = none := by simpa [get?, at_k] using found
        rw [empty, Option.map_none, ← empty]
        rfl
      rw [nothing, modifySlot_id]
  | some e =>
      simp only [same e, Except.map]
      refine congrArg Except.ok (modifySlot_congr fun slot at_k => ?_)
      have full : slot.entry = some e := by simpa [get?, at_k] using found
      simp [full]

theorem Sound.appendChecked_eq (sound : s.Sound) {id : CorrelationId} (unseen : s.hasSeen id = false)
    (kind : Kind) (status : Status) (now : Instant) :
    s.appendChecked id kind status now = .ok (s.append id kind status now) := by
  rw [appendChecked, unseen, if_neg Bool.false_ne_true]
  split
  · next index free at_free =>
      obtain ⟨slot, at_index, -⟩ := (sound.vacant index).mp (by simp [at_free])
      exact if_pos (Array.getElem?_eq_some_iff.mp at_index).1
  · rfl

theorem Sound.evictChecked_eq (sound : s.Sound) (k : Key) : s.evictChecked k = .ok (s.evict k) := by
  rw [Store.evictChecked, Store.evict]
  cases found : s.get? k with
  | none => rfl
  | some e =>
      simp only
      split
      · rfl
      · split
        · rfl
        · obtain ⟨p, at_p⟩ := List.getElem?_of_mem (sound.mem_order found)
          have searched : s.positionOf? k = some p := sound.positionOf?_eq_some.mpr at_p
          have cut : ({ s with order := s.order.eraseIdx p } : Store).get? k = some e := found
          simp only [searched, cut]

end Store

/-! ## The correlator -/

namespace Correlator

variable {s : Store}

def closeThoughtsChecked (c : Correlator) (s : Store) (now : Instant) :
    Except Breach (Correlator × Store) := do
  let s ← c.openThoughts.foldlM (fun s k => s.updateChecked k (·.closeBurstChecked now)) s
  return ({ c with openThoughts := [] }, s)

def startChecked (c : Correlator) (s : Store) (id : CorrelationId) (kind : Kind) (status : Status)
    (now : Instant) : Except Breach (Key × Correlator × Store) := do
  let (c, s) ← c.closeThoughtsChecked s now
  let (k, s) ← s.appendChecked id kind status now
  return (k, c, s)

def startNewChecked (c : Correlator) (s : Store) (label : String) (id : CorrelationId)
    (kind : Kind) (status : Status) (now : Instant) : Except Breach Ingested :=
  if s.hasSeen id then .ok (c.refuse s (.duplicateCorrelation id label))
  else do
    let (k, c, s) ← c.startChecked s id kind status now
    return ⟨.ok (.appended k), c, s⟩

def completeToolChecked (c : Correlator) (s : Store) (label : String) (id : CorrelationId)
    (codes : List Int) (output : String) (summary : Option String) (now : Instant) :
    Except Breach Ingested :=
  match runningTool s id label with
  | .error e => .ok (c.refuse s e)
  | .ok k => do
    let s ← s.updateChecked k (·.completeChecked codes output summary now)
    return ⟨.ok (.finished k), c, s.releaseLease k⟩

def thoughtDeltaChecked (c : Correlator) (s : Store) (label : String) (id : CorrelationId)
    (text : String) (done : Bool) (now : Instant) : Except Breach Ingested :=
  match s.keyOf? id with
  | none =>
    if s.hasSeen id then .ok (c.refuse s (.duplicateCorrelation id label))
    else do
      let (k, c, s) ←
        c.startChecked s id (.thought text) (if done then .completed else .running) now
      let c := if done then c else { c with openThoughts := c.openThoughts ++ [k] }
      return ⟨.ok (.appended k), c, s⟩
  | some k =>
    match s.get? k with
    | none => .error (.lostEntry k)
    | some e =>
      if !e.kind.isThought then .ok (c.refuse s (.duplicateCorrelation id label))
      else if !e.isRunning then .ok (c.refuse s (.notRunning id label))
      else if done then do
        let s ← s.updateChecked k (·.thinkLastChecked text now)
        return ⟨.ok (.finished k), { c with openThoughts := c.openThoughts.filter (· ≠ k) }, s⟩
      else .ok ⟨.ok (.updated k), c, s.update k (·.think text now)⟩

def acknowledgeChecked (c : Correlator) (s : Store) (label : String) (id : Option CorrelationId)
    (author text : String) (now : Instant) : Except Breach Ingested :=
  match c.acknowledged? s id text with
  | some k =>
    match s.get? k with
    | none => .error (.lostEntry k)
    | some e =>
      if !e.kind.isInstruction then .ok (c.refuse s (.duplicateCorrelation e.id label))
      else do
        let s ← s.updateChecked k (·.confirmChecked author text now)
        return ⟨.ok (.confirmed k), c, s⟩
  | none =>
    let kind := Kind.instruction author text true
    match id with
    | some id => c.startNewChecked s label id kind .completed now
    | none => do
      let (k, c, s) ← c.startChecked s (.mint "input" s.nextSequence) kind .completed now
      return ⟨.ok (.appended k), c, s⟩

/-- Handles one message. -/
def applyChecked (c : Correlator) (s : Store) (m : Message) (now : Instant) :
    Except Breach Ingested :=
  match m with
  | .thoughtDelta id text done => c.thoughtDeltaChecked s m.label id text done now
  | .toolStarted id tool command =>
    c.startNewChecked s m.label id (.toolUse (.start tool command)) .running now
  | .toolCompleted id codes output summary =>
    c.completeToolChecked s m.label id codes output summary now
  | .fileEdit id path added removed =>
    c.startNewChecked s m.label id (.fileEdit path added removed) .completed now
  | .fileRead id path ranges => c.startNewChecked s m.label id (.fileRead path ranges) .completed now
  | .filesDeleted id paths =>
    if paths.isEmpty then .ok (c.refuse s (.malformed m.label "no paths"))
    else c.startNewChecked s m.label id (.deleted paths) .completed now
  | .log none level message => do
    let (k, c, s) ← c.startChecked s (.mint "log" s.nextSequence)
      (.thought (level.lead ++ message)) .completed now
    return ⟨.ok (.appended k), c, s⟩
  | .inputSubmitted id author text =>
    c.startNewChecked s m.label id (.instruction author text false) .pending now
  | .inputAcknowledged id author text => c.acknowledgeChecked s m.label id author text now
  | .taskCompleted id summary =>
    c.startNewChecked s m.label id (.taskCompleted summary) .completed now
  | m => .ok (c.apply s m now)

theorem closeThoughtsChecked_eq (c : Correlator) (s : Store) (now : Instant) :
    c.closeThoughtsChecked s now = .ok (c.closeThoughts s now) := by
  have folded : ∀ (thoughts : List Key) (s : Store),
      thoughts.foldlM (fun s k => s.updateChecked k (·.closeBurstChecked now)) s =
        .ok (thoughts.foldl (fun s k => s.update k (·.closeBurst now)) s) := by
    intro thoughts
    induction thoughts with
    | nil =>
        intro s
        rfl
    | cons k thoughts ih =>
        intro s
        rw [List.foldlM_cons, s.updateChecked_eq k fun e => e.closeBurstChecked_eq now, ok_bind, ih]
        rfl
  rw [closeThoughtsChecked, folded]
  rfl

theorem completeToolChecked_eq (c : Correlator) (s : Store) (label : String) (id : CorrelationId)
    (codes : List Int) (output : String) (summary : Option String) (now : Instant) :
    c.completeToolChecked s label id codes output summary now =
      .ok (c.completeTool s label id codes output summary now) := by
  rw [completeToolChecked, completeTool]
  cases runningTool s id label with
  | error e => rfl
  | ok k =>
      simp only [s.updateChecked_eq k fun e => e.completeChecked_eq codes output summary now, ok_bind]
      rfl

section Sound

variable (c : Correlator) (sound : s.Sound)
include sound

theorem startChecked_eq {id : CorrelationId} (unseen : s.hasSeen id = false) (kind : Kind)
    (status : Status) (now : Instant) :
    c.startChecked s id kind status now = .ok (c.start s id kind status now) := by
  have closed := sound_closeThoughts c sound now
  have unseen' : (c.closeThoughts s now).2.hasSeen id = false := by
    rw [Store.hasSeen, (c.closeThoughts_frame s now).1]
    exact unseen
  rw [startChecked, closeThoughtsChecked_eq, ok_bind]
  simp only [closed.appendChecked_eq unseen' kind status now, ok_bind]
  rfl

theorem startNewChecked_eq (label : String) (id : CorrelationId) (kind : Kind) (status : Status)
    (now : Instant) :
    c.startNewChecked s label id kind status now = .ok (c.startNew s label id kind status now) := by
  rw [startNewChecked, startNew]
  split
  · rfl
  · next unseen =>
      rw [startChecked_eq c sound (Bool.eq_false_iff.mpr unseen) kind status now]
      rfl

theorem thoughtDeltaChecked_eq (label : String) (id : CorrelationId) (text : String) (done : Bool)
    (now : Instant) :
    c.thoughtDeltaChecked s label id text done now =
      .ok (c.thoughtDelta s label id text done now) := by
  rw [thoughtDeltaChecked, thoughtDelta]
  cases known : s.keyOf? id with
  | none =>
      simp only
      split
      · rfl
      · next unseen =>
          rw [startChecked_eq c sound (Bool.eq_false_iff.mpr unseen)]
          rfl
  | some k =>
      obtain ⟨e, found⟩ := Option.isSome_iff_exists.mp (contains_of_keyOf? known)
      simp only [found]
      split
      · rfl
      · split
        · rfl
        · split
          · rw [s.updateChecked_eq k fun e => e.thinkLastChecked_eq text now]
            rfl
          · rfl

theorem acknowledgeChecked_eq (reserves : s.Reserves) (label : String) (id : Option CorrelationId)
    (author text : String) (now : Instant) :
    c.acknowledgeChecked s label id author text now =
      .ok (c.acknowledge s label id author text now) := by
  rw [acknowledgeChecked, acknowledge]
  cases target : c.acknowledged? s id text with
  | some k =>
      obtain ⟨e, found, -⟩ := acknowledged?_cases target
      simp only [found]
      split
      · rfl
      · rw [s.updateChecked_eq k fun e => e.confirmChecked_eq author text now]
        rfl
  | none =>
      cases id with
      | some id => exact startNewChecked_eq c sound label id _ .completed now
      | none =>
          simp only
          rw [startChecked_eq c sound (reserves.unseen "input")]
          rfl

/-- No message breaks an assertion. -/
theorem applyChecked_eq (reserves : s.Reserves) (m : Message) (now : Instant) :
    c.applyChecked s m now = .ok (c.apply s m now) := by
  cases m with
  | thoughtDelta id text done => exact thoughtDeltaChecked_eq c sound _ id text done now
  | toolStarted id tool command => exact startNewChecked_eq c sound _ id _ .running now
  | toolCompleted id codes output summary =>
      exact completeToolChecked_eq c s _ id codes output summary now
  | fileEdit id path added removed => exact startNewChecked_eq c sound _ id _ .completed now
  | fileRead id path ranges => exact startNewChecked_eq c sound _ id _ .completed now
  | filesDeleted id paths =>
      rw [applyChecked, apply]
      split
      · rfl
      · exact startNewChecked_eq c sound _ id _ .completed now
  | log id level message =>
      cases id with
      | some id => rfl
      | none =>
          rw [applyChecked, startChecked_eq c sound (reserves.unseen "log")]
          rfl
  | inputSubmitted id author text => exact startNewChecked_eq c sound _ id _ .pending now
  | inputAcknowledged id author text =>
      exact acknowledgeChecked_eq c sound reserves _ id author text now
  | taskCompleted id summary => exact startNewChecked_eq c sound _ id _ .completed now
  | _ => rfl

end Sound

end Correlator

end Chronicle
