import Chronicle.Proofs.Headless.Job
import Mathlib.Data.List.Infix

/-!
# What a command's parties hold and wait for

The facts about one party at a time that the account of all of them is made of.  A pump has sent some of its
messages and has others left (`Pumped`); each party holds its senders until it ends (`Held`); and where
the thread stands says which pumps are there and which have ended (`Runner.Suits`).
-/

namespace Chronicle

/-! ## What a pump has yet to send -/

theorem pumpLines_always (lines : List (List UInt8)) :
    ∀ n, pumpLines (fun _ => true) n lines = pumpLines (fun _ => true) 0 lines := by
  induction lines with
  | nil =>
      intro n
      rfl
  | cons line lines ih =>
      intro n
      rw [pumpLines, pumpLines, ih, ih 1]

/-- The messages that a pump has yet to send for these lines, if nobody stops it. -/
def Subscription.deltas (u : Subscription) (lines : List (List UInt8)) : List Message :=
  (pumpLines (fun _ => true) 0 lines).map (.streamDelta u.target)

theorem Subscription.deltas_cons (u : Subscription) {line : List UInt8} {text : String}
    (is : Text.Utf8.decodeString line = some text) (rest : List (List UInt8)) :
    u.deltas (line :: rest) = .streamDelta u.target text :: u.deltas rest := by
  rw [deltas, pumpLines, is]
  simp only [if_true, pumpLines_always rest, List.map_cons]
  rfl

theorem Subscription.deltas_garbled (u : Subscription) {line : List UInt8}
    (none : Text.Utf8.decodeString line = none) (rest : List (List UInt8)) :
    u.deltas (line :: rest) = [] := by
  rw [deltas, pumpLines, none]
  rfl

namespace Headless

/-- What the pump of an output has yet to send, if nobody stops it. -/
def Pump.left (u : Subscription) (bytes : List UInt8) : Pump → List Message
  | absent => u.deltas (Text.byteLines bytes)
  | reading rest => u.deltas rest
  | checking text rest => .streamDelta u.target text :: u.deltas rest
  | pushing text rest => .streamDelta u.target text :: u.deltas rest
  | sending m rest => m :: u.deltas rest
  | ending => []
  | ended => []

/-- Of all that there is to send, this has been sent and that is left.  The rest is missed only if the stream
is cancelled. -/
structure Pumped (isCancelled : Bool) (all sent left : List Message) : Prop where
  first : sent ++ left <+: all
  whole : isCancelled = false → sent ++ left = all

namespace Pumped

variable {isCancelled : Bool} {all sent left : List Message}

theorem stop (pumped : Pumped true all sent left) : Pumped true all sent [] where
  first := by
    rw [List.append_nil]
    exact (List.prefix_append sent left).trans pumped.first
  whole goes := absurd goes (by simp)

theorem send {m : Message} (pumped : Pumped isCancelled all sent (m :: left)) :
    Pumped isCancelled all (sent ++ [m]) left := by
  have shift : sent ++ [m] ++ left = sent ++ m :: left := by simp
  exact ⟨shift ▸ pumped.first, fun goes => shift.trans (pumped.whole goes)⟩

/-- A stream that is cancelled later is missed no less. -/
theorem later (pumped : Pumped isCancelled all sent left) {isCancelled' : Bool}
    (stays : isCancelled = true → isCancelled' = true) : Pumped isCancelled' all sent left where
  first := pumped.first
  whole goes := by
    refine pumped.whole (Bool.eq_false_iff.mpr fun cancelled => ?_)
    exact absurd ((stays cancelled).symm.trans goes) (by simp)

end Pumped

/-! ## Who holds which sender -/

theorem sender_lt (o : Output) : sender o < 3 := by
  cases o <;> decide

theorem sender_ne_zero (o : Output) : sender o ≠ 0 := by
  cases o <;> decide

theorem sender_injective : Function.Injective sender := by
  intro o o' same
  cases o <;> cases o' <;> first | rfl | exact absurd same (by decide)

/-- The senders that the thread holds. -/
def Runner.held : Runner → List Nat
  | starting => [0, 1]
  | opening outputs => if .error ∈ outputs then [0, 1] else [0]
  | joining _ => [0]
  | reporting _ => [0]
  | leaving senders => senders

/-- The pump goes on, and holds its sender. -/
def Pump.isLive : Pump → Bool
  | absent => false
  | ended => false
  | _ => true

/-- Of these producers, the thread holds the senders in `held`, and the pumps that go on hold theirs. -/
structure Held (producers held : List Nat) (pump : Output → Pump) : Prop where
  runner : 0 ∈ producers ↔ 0 ∈ held
  error : 1 ∈ producers ↔ 1 ∈ held ∨ (pump .error).isLive = true
  standard : 2 ∈ producers ↔ (pump .standard).isLive = true

namespace Held

variable {producers held : List Nat} {pump : Output → Pump} {o : Output}

theorem live (holds : Held producers held pump) (live : (pump o).isLive = true) : sender o ∈ producers := by
  cases o with
  | standard => exact holds.standard.mpr live
  | error => exact holds.error.mpr (.inr live)

/-- A pump that goes on holds what it held. -/
theorem move (holds : Held producers held pump) {p : Pump} (same : p.isLive = (pump o).isLive) :
    Held producers held (Function.update pump o p) := by
  have live : ∀ o', (Function.update pump o p o').isLive = (pump o').isLive :=
    (Function.forall_update_iff pump fun o' p => p.isLive = (pump o').isLive).mpr ⟨same, fun _ _ => rfl⟩
  exact ⟨holds.runner, by rw [live]; exact holds.error, by rw [live]; exact holds.standard⟩

/-- A pump gives its sender back, of which the thread has no part. -/
theorem finish (holds : Held producers held pump) (nodup : producers.Nodup) (alone : o = .error → 1 ∉ held) :
    Held (producers.erase (sender o)) held (Function.update pump o .ended) := by
  have erased (q : Nat) : q ∈ producers.erase (sender o) ↔ q ≠ sender o ∧ q ∈ producers :=
    nodup.mem_erase_iff
  cases o with
  | standard =>
      refine ⟨?_, ?_, ?_⟩ <;> rw [erased]
      · rw [holds.runner]
        simp [sender]
      · rw [holds.error, Function.update_of_ne (by simp)]
        simp [sender]
      · simp [sender, Pump.isLive]
  | error =>
      refine ⟨?_, ?_, ?_⟩ <;> rw [erased]
      · rw [holds.runner]
        simp [sender]
      · simp [sender, alone rfl, Pump.isLive]
      · rw [holds.standard, Function.update_of_ne (by simp)]
        simp [sender]

/-- The pump of the standard output has a copy of the handle. -/
theorem copy (holds : Held producers held pump) {p : Pump} (live : p.isLive = true) :
    Held (2 :: producers) held (Function.update pump .standard p) where
  runner := by simp [holds.runner]
  error := by
    rw [Function.update_of_ne (by simp)]
    simp [holds.error]
  standard := by simp [live]

/-- The pump of the error output has the handle that the thread had. -/
theorem give (holds : Held producers held pump) (had : 1 ∈ held) {held' : List Nat}
    (kept : 0 ∈ held' ↔ 0 ∈ held) {p : Pump} (live : p.isLive = true) :
    Held producers held' (Function.update pump .error p) where
  runner := holds.runner.trans kept.symm
  error := iff_of_true (holds.error.mpr (.inl had)) (.inr (by simp [live]))
  standard := by
    rw [Function.update_of_ne (by simp)]
    exact holds.standard

/-- The thread gives one of its senders back. -/
theorem quit {p : Nat} (holds : Held producers (p :: held) pump) (nodup : producers.Nodup)
    (own : (p :: held).Sublist [0, 1]) (finished : (pump .error).isLive = false) :
    Held (producers.erase p) held pump := by
  have erased (q : Nat) : q ∈ producers.erase p ↔ q ≠ p ∧ q ∈ producers := nodup.mem_erase_iff
  have once : p ∉ held := (List.nodup_cons.mp (own.nodup (by decide))).1
  have mine : p ∈ [0, 1] := own.subset List.mem_cons_self
  refine ⟨?_, ?_, ?_⟩ <;> rw [erased]
  · rw [holds.runner]
    by_cases same : 0 = p
    · simp [same, once]
    · simp [same]
  · rw [holds.error, finished]
    by_cases same : 1 = p
    · simp [same, once]
    · simp [same]
  · rw [holds.standard]
    have other : 2 ≠ p := by
      rintro rfl
      simp at mine
    simp [other]

end Held

/-! ## How far the pumps are -/

/-- How far the pumps are when the thread is where it is. -/
def Runner.Suits (started : Bool) (pump : Output → Pump) : Runner → Prop
  | starting => ∀ o, pump o = .absent
  | opening outputs => started = true ∧ outputs <:+ [.standard, .error] ∧
      ∀ o, pump o = .absent ↔ o ∈ outputs
  | joining outputs => started = true ∧ ∀ o, pump o ≠ .absent ∧ (o ∉ outputs → pump o = .ended)
  | reporting _ => started = true ∧ ∀ o, pump o = .ended
  | leaving senders => senders.Sublist [0, 1] ∧ ∀ o, pump o = if started then .ended else .absent

/-- The completion has been sent. -/
def Runner.hasReported : Runner → Bool
  | leaving _ => true
  | _ => false

namespace Runner

variable {started : Bool} {pump : Output → Pump} {runner : Runner} {o : Output}

/-- While a pump goes on, the thread waits for it. -/
theorem Suits.waits (suits : runner.Suits started pump) (live : (pump o).isLive = true) :
    (∃ outputs, runner = .opening outputs) ∨ ∃ outputs, runner = .joining outputs := by
  cases runner with
  | starting => simp [suits o, Pump.isLive] at live
  | opening outputs => exact .inl ⟨outputs, rfl⟩
  | joining outputs => exact .inr ⟨outputs, rfl⟩
  | reporting isStopped => simp [suits.2 o, Pump.isLive] at live
  | leaving senders =>
      rw [suits.2 o] at live
      cases started <;> simp [Pump.isLive] at live

theorem Suits.unreported (suits : runner.Suits started pump) (live : (pump o).isLive = true) :
    runner.hasReported = false := by
  rcases suits.waits live with ⟨outputs, rfl⟩ | ⟨outputs, rfl⟩ <;> rfl

/-- An output gets its pump. -/
theorem Suits.pumped {outputs : List Output} (suits : (opening (o :: outputs)).Suits started pump)
    {p : Pump} (there : p ≠ .absent) : (opening outputs).Suits started (Function.update pump o p) := by
  obtain ⟨runs, rest, absent⟩ := suits
  have once : o ∉ outputs := (List.nodup_cons.mp (rest.sublist.nodup (by decide))).1
  refine ⟨runs, (List.suffix_cons o outputs).trans rest,
    (Function.forall_update_iff pump fun o' p => p = .absent ↔ o' ∈ outputs).mpr ⟨?_, fun o' other => ?_⟩⟩
  · exact iff_of_false there once
  · rw [absent, List.mem_cons]
    simp [other]

/-- The pump of the error output has the handle that was the thread's. -/
theorem Suits.not_mem_held (suits : runner.Suits started pump) (live : (pump .error).isLive = true) :
    1 ∉ runner.held := by
  rcases suits.waits live with ⟨outputs, rfl⟩ | ⟨outputs, rfl⟩
  · have given : .error ∉ outputs := by
      intro mem
      simp [(suits.2.2 .error).mpr mem, Pump.isLive] at live
    simp [held, given]
  · simp [held]

/-- A pump goes on, or ends. -/
theorem Suits.move (suits : runner.Suits started pump) (live : (pump o).isLive = true) {p : Pump}
    (there : p ≠ .absent) : runner.Suits started (Function.update pump o p) := by
  have was : pump o ≠ .absent := by
    rintro same
    simp [same, Pump.isLive] at live
  rcases suits.waits live with ⟨outputs, rfl⟩ | ⟨outputs, rfl⟩
  · obtain ⟨runs, rest, absent⟩ := suits
    exact ⟨runs, rest, (Function.forall_update_iff pump fun o' p => p = .absent ↔ o' ∈ outputs).mpr
      ⟨iff_of_false there fun mem => was ((absent o).mpr mem), fun o' _ => absent o'⟩⟩
  · obtain ⟨runs, waits⟩ := suits
    refine ⟨runs, (Function.forall_update_iff pump fun o' p =>
      p ≠ .absent ∧ (o' ∉ outputs → p = .ended)).mpr ⟨⟨there, fun finished => ?_⟩, fun o' _ => waits o'⟩⟩
    simp [(waits o).2 finished, Pump.isLive] at live

end Runner

end Headless

end Chronicle
