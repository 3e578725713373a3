import Chronicle.Headless
import Mathlib.Logic.Relation

/-!
# Producers and the loop, step by step

Producers and the loop share the mailbox, and each goes on when it likes.  `Step` is one step of any of them:
a producer is connected, cloned, sends or leaves, the owner gives up its own sender, and the loop takes
one message, handles one, or wakes up.  A batch is not taken at once, so messages may come while it is
being taken, and each message is handled at a time of its own.

`Headless.finish`, where nobody sends any more, is one of the schedules (`reaches_finish`).
-/

namespace Chronicle

namespace Mailbox

/-- A wait takes the first message, or none. -/
theorem wait_cases (b : Mailbox) (t : Ticker) (now later : Instant) :
    (∃ t', b.wait t now later = (.tick, b, t')) ∨
      (∃ m queue, b.queue = m :: queue ∧ b.wait t now later = (.message m, { b with queue }, t)) ∨
      b.queue = [] ∧ b.isClosed = true ∧ b.wait t now later = (.closed, b, t) := by
  rw [wait]
  cases due : (t.fire now).1 with
  | true => exact .inl ⟨_, rfl⟩
  | false =>
      cases queue : b.queue with
      | cons m rest => exact .inr (.inl ⟨m, rest, rfl, rfl⟩)
      | nil =>
          cases closed : b.isClosed with
          | true => exact .inr (.inr ⟨rfl, rfl, rfl⟩)
          | false => exact .inl ⟨_, rfl⟩

theorem wait_eq_closed_iff (b : Mailbox) (t : Ticker) (now later : Instant) :
    (b.wait t now later).1 = .closed ↔
      (t.fire now).1 = false ∧ b.queue = [] ∧ b.isClosed = true := by
  rw [wait]
  cases due : (t.fire now).1 with
  | true => simp
  | false =>
      cases queue : b.queue with
      | cons m rest => simp
      | nil => cases closed : b.isClosed <;> simp

end Mailbox

namespace Headless

/-- Where the loop stands. -/
inductive Phase where
  /-- It takes the messages of a batch, and has taken these. -/
  | taking (batch : List Message)
  /-- It handles messages, and these are left. -/
  | handling (batch : List Message)
  | waiting
  /-- It has ended. -/
  | left
deriving DecidableEq, Repr

/-- The messages that the loop has taken and not handled. -/
def Phase.taken : Phase → List Message
  | taking batch => batch
  | handling batch => batch
  | waiting => []
  | left => []

/-- How the loop goes on after it has waited. -/
def Phase.after : Wake → Phase
  | .message m => handling [m]
  | .tick => taking []
  | .closed => left

/-- The loop, the producers that are connected, and what has happened: the messages that were accepted, each
with its sender, and the messages that were handled, each with the time. -/
structure World extends State where
  phase : Phase
  producers : List Nat
  sent : List (Nat × Message)
  handled : List (Message × Instant)

namespace World

/-- Nothing has happened yet. -/
def start (s : Session) (t : Ticker) : World where
  mailbox := .empty
  ticker := t
  session := s
  phase := .taking []
  producers := []
  sent := []
  handled := []

def connect (w : World) (p : Nat) : World :=
  { w with mailbox := w.mailbox.connect.2, producers := p :: w.producers }

/-- A producer hands out one more sender beside its own. -/
def clone (w : World) (q : Nat) : World :=
  { w with
    mailbox := { w.mailbox with producers := w.mailbox.producers + 1 }
    producers := q :: w.producers }

def leave (w : World) (p : Nat) : World :=
  { w with mailbox := w.mailbox.disconnect, producers := w.producers.erase p }

def send (w : World) (p : Nat) (m : Message) : World :=
  { w with
    mailbox := (w.mailbox.send m).2
    sent := if (w.mailbox.send m).1 then w.sent ++ [(p, m)] else w.sent }

def sealOff (w : World) : World := { w with mailbox := w.mailbox.sealOff }

/-- The loop handles a message, and has others left. -/
def handle (w : World) (m : Message) (rest : List Message) (now : Instant) : World :=
  { w with
    session := (w.session.handle m now).2
    phase := .handling rest
    handled := w.handled ++ [(m, now)] }

/-- The loop wakes up. -/
def wake (w : World) (now later : Instant) : World :=
  let (wake, mailbox, ticker) := w.mailbox.wait w.ticker now later
  { w with mailbox, ticker, phase := .after wake }

theorem wake_eq {w : World} {now later : Instant} {x : Wake} {b : Mailbox} {t : Ticker}
    (waited : w.mailbox.wait w.ticker now later = (x, b, t)) :
    w.wake now later = { w with mailbox := b, ticker := t, phase := .after x } := by
  rw [wake, waited]

end World

/-- One step of the loop. -/
inductive LoopStep (w : World) : World → Prop where
  /-- One more message of a batch. -/
  | take {batch : List Message} {m : Message} (taking : w.phase = .taking batch)
      (room : batch.length < batchSize) (first : (w.mailbox.take 1).1 = [m]) :
      LoopStep w { w with mailbox := (w.mailbox.take 1).2, phase := .taking (batch ++ [m]) }
  /-- The batch is full, or there was no message any more. -/
  | handleBatch {batch : List Message} (taking : w.phase = .taking batch)
      (stops : batch.length = batchSize ∨ w.mailbox.queue = []) (some : batch ≠ []) :
      LoopStep w { w with phase := .handling batch }
  | handle {m : Message} {rest : List Message} (handling : w.phase = .handling (m :: rest))
      (now : Instant) : LoopStep w (w.handle m rest now)
  | again (handling : w.phase = .handling []) : LoopStep w { w with phase := .taking [] }
  | drained (taking : w.phase = .taking []) (none : w.mailbox.queue = []) :
      LoopStep w { w with phase := .waiting }
  /-- Between the look at the ticker and the end of the wait others may go on, but the look is at nothing
  of theirs.  So both are one step, at the time of the end. -/
  | wake (waiting : w.phase = .waiting) (now later : Instant) : LoopStep w (w.wake now later)

/-- One step of the loop, of a producer or of the owner. -/
inductive Step (w : World) : World → Prop where
  | loop {w' : World} (step : LoopStep w w') : Step w w'
  | connect (p : Nat) (new : p ∉ w.producers) (granted : w.mailbox.connect.1 = true) :
      Step w (w.connect p)
  | clone {p : Nat} (there : p ∈ w.producers) (q : Nat) (new : q ∉ w.producers) : Step w (w.clone q)
  | leave {p : Nat} (there : p ∈ w.producers) : Step w (w.leave p)
  | send {p : Nat} (there : p ∈ w.producers) (m : Message) : Step w (w.send p m)
  | sealOff : Step w w.sealOff

/-- The loop leaves the producers and what they have sent, and to the session it does nothing but handle
messages. -/
theorem LoopStep.frame {w w' : World} (step : LoopStep w w') :
    w'.producers = w.producers ∧ w'.sent = w.sent ∧
      (w'.session = w.session ∨ ∃ m now, w'.session = (w.session.handle m now).2) := by
  cases step with
  | @handle m rest handling now => exact ⟨rfl, rfl, .inr ⟨m, now, rfl⟩⟩
  | wake waiting now later =>
      rw [World.wake_eq (w := w) rfl]
      exact ⟨rfl, rfl, .inl rfl⟩
  | _ => exact ⟨rfl, rfl, .inl rfl⟩

/-- Any number of steps, of whoever goes on. -/
abbrev Steps : World → World → Prop := Relation.ReflTransGen Step

/-- Any number of steps of the loop. -/
abbrev LoopSteps : World → World → Prop := Relation.ReflTransGen LoopStep

/-! ## The loop when nobody sends -/

namespace World

/-- The loop has taken `n` messages more. -/
def takeMore (w : World) (batch : List Message) (n : Nat) : World :=
  { w with mailbox := (w.mailbox.take n).2, phase := .taking (batch ++ (w.mailbox.take n).1) }

/-- The loop has handled all messages that it had taken, at one time. -/
def handleBatch (w : World) (now : Instant) (batch : List Message) : World :=
  { w with
    session := (handleAll w.session now batch).2
    phase := .handling []
    handled := w.handled ++ batch.map (·, now) }

/-- The loop has taken `n` messages as a batch and handled them. -/
def batch (w : World) (now : Instant) (n : Nat) : World :=
  { w with
    mailbox := (w.mailbox.take n).2
    session := (handleAll w.session now (w.mailbox.take n).1).2
    phase := .taking []
    handled := w.handled ++ (w.mailbox.take n).1.map (·, now) }

/-- The loop has handled all messages that were there, at one time. -/
def drain (w : World) (now : Instant) : World :=
  { w with
    mailbox := { w.mailbox with queue := [] }
    session := (handleAll w.session now w.mailbox.queue).2
    phase := .taking []
    handled := w.handled ++ w.mailbox.queue.map (·, now) }

end World

theorem takes (n : Nat) : ∀ (w : World) (batch : List Message), w.phase = .taking batch →
    batch.length + n ≤ batchSize → n ≤ w.mailbox.queue.length →
    LoopSteps w (w.takeMore batch n) := by
  induction n with
  | zero =>
      intro w batch taking _ _
      have same : w = w.takeMore batch 0 := by simp [World.takeMore, Mailbox.take, ← taking]
      rw [← same]
  | succ n ih =>
      intro w batch taking room enough
      obtain ⟨⟨⟨queue, connected, isSealed, isDropped⟩, t, s⟩, phase, producers, sent, handled⟩ := w
      cases queue with
      | nil => exact absurd enough (by simp)
      | cons m queue =>
          refine .head (.take taking (by omega) rfl) ?_
          have rest := ih ⟨⟨⟨queue, connected, isSealed, isDropped⟩, t, s⟩, .taking (batch ++ [m]),
            producers, sent, handled⟩ (batch ++ [m]) rfl (by simp; omega) (by simpa using enough)
          rw [World.takeMore, List.append_assoc] at rest
          exact rest

/-- The session that messages leave does not depend on whether the screen has changed before. -/
theorem handleAll_snd (now : Instant) (ms : List Message) (s : Session) :
    (handleAll s now ms).2 = ms.foldl (fun s m => (s.handle m now).2) s :=
  (ms.foldl_hom Prod.snd fun _ _ => rfl).symm

theorem handleAll_append (now : Instant) (ms ms' : List Message) (s : Session) :
    (handleAll (handleAll s now ms).2 now ms').2 = (handleAll s now (ms ++ ms')).2 := by
  simp only [handleAll_snd, List.foldl_append]

theorem handles (now : Instant) (batch : List Message) : ∀ w : World, w.phase = .handling batch →
    LoopSteps w (w.handleBatch now batch) := by
  induction batch with
  | nil =>
      intro w handling
      have same : w = w.handleBatch now [] := by simp [World.handleBatch, handleAll, ← handling]
      rw [← same]
  | cons m batch ih =>
      intro w handling
      have rest := ih (w.handle m batch now) rfl
      have all : (w.handle m batch now).handleBatch now batch = w.handleBatch now (m :: batch) := by
        simp [World.handleBatch, World.handle, handleAll_snd]
      rw [all] at rest
      exact .head (.handle handling now) rest

/-- Draining handles all that is there. -/
theorem drainInto_snd (b : Mailbox) (s : Session) (now : Instant) :
    (drainInto b s now).2 = ({ b with queue := [] }, (handleAll s now b.queue).2) := by
  fun_induction drainInto b s now with
  | case1 b s none =>
      rw [none]
      exact Prod.ext (by rw [← none]) rfl
  | case2 b s some changed s' handled dirty b' s'' rest ih =>
      have all : (b.take batchSize).1 ++ (b.take batchSize).2.queue = b.queue :=
        List.take_append_drop batchSize b.queue
      have first : (handleAll s now (b.take batchSize).1).2 = s' := by rw [handled]
      rw [rest] at ih
      refine Eq.trans ih (Prod.ext rfl ?_)
      rw [← first, handleAll_append, all]

theorem drain_batch (w : World) (now : Instant) (n : Nat) : (w.batch now n).drain now = w.drain now := by
  have queue : (w.mailbox.take n).1 ++ (w.mailbox.take n).2.queue = w.mailbox.queue :=
    List.take_append_drop n w.mailbox.queue
  have session := handleAll_append now (w.mailbox.take n).1 (w.mailbox.take n).2.queue w.session
  rw [queue] at session
  have handled : w.handled ++ (w.mailbox.take n).1.map (·, now) ++
      (w.mailbox.take n).2.queue.map (·, now) = w.handled ++ w.mailbox.queue.map (·, now) := by
    rw [List.append_assoc, ← List.map_append, queue]
  simp only [World.drain, World.batch, session, handled]
  rfl

/-- A batch is full, or holds all that is there. -/
theorem batches (w : World) (now : Instant) {n : Nat} (taking : w.phase = .taking [])
    (some : 0 < n) (enough : n ≤ w.mailbox.queue.length)
    (stops : n = batchSize ∨ n < batchSize ∧ n = w.mailbox.queue.length) :
    LoopSteps w (w.batch now n) := by
  have taken := takes n w [] taking (by simp; omega) enough
  have length : (w.mailbox.queue.take n).length = n := by
    rw [List.length_take]
    omega
  have stop : LoopStep (w.takeMore [] n)
      { w.takeMore [] n with phase := .handling (w.mailbox.queue.take n) } := by
    refine .handleBatch rfl ?_ fun empty => ?_
    · show (w.mailbox.queue.take n).length = batchSize ∨ w.mailbox.queue.drop n = []
      rw [length, List.drop_eq_nil_iff]
      omega
    · rw [empty, List.length_nil] at length
      omega
  have handled := handles now (w.mailbox.queue.take n)
    { w.takeMore [] n with phase := .handling (w.mailbox.queue.take n) } rfl
  exact taken.trans (.head stop (handled.tail (.again rfl)))

theorem drains (now : Instant) (n : Nat) : ∀ w : World, w.mailbox.queue.length = n →
    w.phase = .taking [] → LoopSteps w (w.drain now) := by
  induction n using Nat.strongRecOn with
  | ind n ih =>
      intro w length taking
      by_cases none : w.mailbox.queue = []
      · have same : w = w.drain now := by
          obtain ⟨⟨⟨queue, connected, isSealed, isDropped⟩, t, s⟩, phase, producers, sent, handled⟩ := w
          obtain rfl : queue = [] := none
          obtain rfl : phase = .taking [] := taking
          simp [World.drain, handleAll]
        rw [← same]
      · have some : 0 < w.mailbox.queue.length := List.length_pos_iff.mpr none
        have most : 0 < batchSize := by decide
        obtain ⟨size, is⟩ : ∃ size, size = min batchSize w.mailbox.queue.length := ⟨_, rfl⟩
        have first := batches w now taking (n := size) (by omega) (by omega) (by omega)
        have rest := ih (w.mailbox.queue.drop size).length (by rw [List.length_drop]; omega)
          (w.batch now size) rfl rfl
        rw [drain_batch] at rest
        exact first.trans rest

/-- Where nobody can send any more, and no deadline has come, the wait for the end is over at once. -/
theorem wait_of_isClosed {b : Mailbox} {t : Ticker} {now : Instant} (later : Instant)
    (empty : b.queue = []) (closed : b.isClosed = true) (early : (t.fire now).1 = false) :
    b.wait t now later = (.closed, b, t) := by
  rw [Mailbox.wait, early, empty, closed]
  rfl

/-- The first deadline is not at once. -/
theorem fire_start (now : Instant) :
    ((Ticker.start Ticker.defaultPeriod now).fire now).1 = false := by
  have early : now < (Ticker.start Ticker.defaultPeriod now).next :=
    Nat.lt_add_of_pos_right (by decide)
  rw [Ticker.fire, if_pos early]

section Closed

variable {b : Mailbox} {t : Ticker} {now : Instant} (s : Session) (closed : b.isClosed = true)
  (early : (t.fire now).1 = false)
include closed early

theorem round_of_isClosed (later : Instant) :
    round ⟨b, t, s⟩ now later = (false, ⟨{ b with queue := [] }, t, (handleAll s now b.queue).2⟩) := by
  have waits : Mailbox.wait { b with queue := [] } t now later = (.closed, { b with queue := [] }, t) :=
    wait_of_isClosed later rfl closed early
  have drained := drainInto_snd b s now
  rw [round]
  generalize drainInto b s now = x at drained
  obtain ⟨dirty, b', s'⟩ := x
  obtain ⟨rfl, rfl⟩ := Prod.mk.inj drained
  simp only [waits]

theorem loop_of_isClosed (fuel : Nat) :
    loop (fuel + 1) ⟨b, t, s⟩ now = ⟨{ b with queue := [] }, t, (handleAll s now b.queue).2⟩ := by
  rw [loop, round_of_isClosed s closed early now]

end Closed

/-- An equation between functions, since the kernel would run the loop to compare what they give. -/
theorem finish_def : finish = fun b s now =>
    (loop 2 ⟨b, Ticker.start Ticker.defaultPeriod now, s⟩ now).session := rfl

theorem finish_eq {b : Mailbox} (closed : b.isClosed = true) (s : Session) (now : Instant) :
    finish b s now = (handleAll s now b.queue).2 := by
  have ended := loop_of_isClosed s closed (fire_start now) 1
  have unfolded := congrFun (congrFun (congrFun finish_def b) s) now
  exact unfolded.trans (congrArg State.session ended)

/-- A round of the loop is one of the schedules, with nobody else going on meanwhile. -/
theorem rounds (w : World) (now later : Instant) (taking : w.phase = .taking []) :
    ∃ w', LoopSteps w w' ∧ w'.sent = w.sent ∧
      w'.toState = (round w.toState now later).2 ∧
      w'.phase = if (round w.toState now later).1 then .taking [] else .left := by
  have drained := drains now _ w rfl taking
  have waits : LoopStep (w.drain now) { w.drain now with phase := .waiting } := .drained rfl rfl
  have waited := (drained.tail waits).tail (.wake rfl now later)
  have session := drainInto_snd w.mailbox w.session now
  rw [round]
  generalize drainInto w.mailbox w.session now = x at session
  obtain ⟨dirty, b, s⟩ := x
  obtain ⟨rfl, rfl⟩ := Prod.mk.inj session
  have woken (x : Wake) (b : Mailbox) (t : Ticker)
      (ends : Mailbox.wait { w.mailbox with queue := [] } w.ticker now later = (x, b, t)) :
      World.wake { w.drain now with phase := .waiting } now later =
        { w.drain now with mailbox := b, ticker := t, phase := .after x } :=
    World.wake_eq (w := { w.drain now with phase := .waiting }) ends
  obtain ⟨t, ends⟩ | ⟨m, queue, first, -⟩ | ⟨-, -, ends⟩ :=
    Mailbox.wait_cases { w.mailbox with queue := [] } w.ticker now later
  · rw [woken _ _ _ ends] at waited
    exact ⟨_, waited, rfl, by simp only [ends]; rfl, by simp only [ends]; rfl⟩
  · exact absurd first (by simp)
  · rw [woken _ _ _ ends] at waited
    exact ⟨_, waited, rfl, by simp only [ends]; rfl, by simp only [ends]; rfl⟩

/-- The loop over a mailbox to which nobody can send any more ends, with the session that is left when all
that is there has been handled. -/
theorem reaches_finish (w : World) (now : Instant) (taking : w.phase = .taking [])
    (closed : w.mailbox.isClosed = true)
    (begun : w.ticker = Ticker.start Ticker.defaultPeriod now) :
    ∃ w', LoopSteps w w' ∧ w'.phase = .left ∧ w'.sent = w.sent ∧
      w'.session = finish w.mailbox w.session now := by
  obtain ⟨w', steps, sent, state, phase⟩ := rounds w now now taking
  have early : (w.ticker.fire now).1 = false := begun ▸ fire_start now
  rw [round_of_isClosed w.session closed early now] at state phase
  refine ⟨w', steps, phase, sent, ?_⟩
  rw [finish_eq closed]
  exact congrArg State.session state

end Headless

end Chronicle
