import Chronicle.Proofs.Headless.Schedule
import Chronicle.Proofs.Session.Moves

/-!
# Nothing is lost between a sender and the session

At every moment of every schedule the messages that were accepted are those that have been handled, those that
the loop has taken and those that wait, in this order, and the session is what handling the first of these
has made of it (`Faithful`).  No step can break this, whoever takes it (`Step.faithful`).

The loop ends only when no message is left and nobody can send one, and then nobody ever sends again.  So by
then every message has been handled, once, and in the order of arrival (`delivers`).
-/

namespace Chronicle

namespace Mailbox

theorem connect_of_granted {b : Mailbox} (granted : b.connect.1 = true) :
    b.isSealed = false ∧ b.connect.2 = { b with producers := b.producers + 1 } := by
  rw [connect] at granted ⊢
  cases isSealed : b.isSealed with
  | true => simp [isSealed] at granted
  | false =>
      cases dropped : b.isDropped with
      | true => simp [dropped] at granted
      | false => exact ⟨rfl, by simp⟩

theorem send_of_kept {b : Mailbox} (kept : b.isDropped = false) (m : Message) :
    b.send m = (true, { b with queue := b.queue ++ [m] }) := by
  rw [send, if_neg (by simp [kept])]

/-- What a taken message leaves. -/
theorem queue_of_take {b : Mailbox} {m : Message} (first : (b.take 1).1 = [m]) :
    b.queue = m :: (b.take 1).2.queue := by
  have split := List.take_append_drop 1 b.queue
  have taken : b.queue.take 1 = [m] := first
  rw [taken] at split
  exact split.symm

end Mailbox

namespace Headless

namespace World

/-- The messages of one producer that were accepted, in order. -/
def sentBy (w : World) (p : Nat) : List Message := (w.sent.filter (·.1 = p)).map (·.2)

/-- The messages that were handled and are from one producer, in the order in which they were handled: the
`n`-th message handled is the `n`-th that was accepted. -/
def handledFrom (w : World) (p : Nat) : List Message :=
  ((w.sent.zip w.handled).filter (·.1.1 = p)).map (·.2.1)

/-- The session that is left when messages are handled, each at its time. -/
def fold (s : Session) (handled : List (Message × Instant)) : Session :=
  handled.foldl (fun s mn => (s.handle mn.1 mn.2).2) s

theorem fold_append (s : Session) (handled : List (Message × Instant)) (m : Message) (now : Instant) :
    fold s (handled ++ [(m, now)]) = ((fold s handled).handle m now).2 := by
  rw [fold, List.foldl_append]
  rfl

/-- What holds at every moment, `s` being the session in the beginning. -/
structure Faithful (s : Session) (w : World) : Prop where
  order : w.sent.map (·.2) = w.handled.map (·.1) ++ (w.phase.taken ++ w.mailbox.queue)
  session : w.session = fold s w.handled
  nodup : w.producers.Nodup
  connected : w.mailbox.producers = w.producers.length
  kept : w.mailbox.isDropped = false
  ended : w.phase = .left → w.mailbox.isSealed = true ∧ w.producers = [] ∧ w.mailbox.queue = []

theorem faithful_start (s : Session) (t : Ticker) : (start s t).Faithful s where
  order := rfl
  session := rfl
  nodup := .nil
  connected := rfl
  kept := rfl
  ended left := absurd left (by simp [start])

variable {s : Session} {w w' : World}

/-- Nobody can send any more: the owner has given up its sender, and no producer is left. -/
theorem Faithful.isClosed_iff (holds : w.Faithful s) :
    w.mailbox.isClosed = true ↔ w.mailbox.isSealed = true ∧ w.producers = [] := by
  rw [Mailbox.isClosed, Bool.and_eq_true, beq_iff_eq, holds.connected, List.length_eq_zero_iff]

theorem Faithful.sent_send (holds : w.Faithful s) (p : Nat) (m : Message) :
    (w.send p m).sent = w.sent ++ [(p, m)] := by
  rw [send, Mailbox.send_of_kept holds.kept]
  rfl

/-- The step of a producer that is there is not after the end. -/
theorem Faithful.not_left (holds : w.Faithful s) {p : Nat} (there : p ∈ w.producers) :
    w.phase ≠ .left := by
  intro left
  rw [(holds.ended left).2.1] at there
  exact absurd there (by simp)

theorem Faithful.wake (holds : w.Faithful s) (waiting : w.phase = .waiting) (now later : Instant) :
    (w.wake now later).Faithful s := by
  have order := holds.order
  rw [waiting] at order
  obtain ⟨t', waited⟩ | ⟨m, queue, first, waited⟩ | ⟨empty, closed, waited⟩ :=
    w.mailbox.wait_cases w.ticker now later
  · rw [wake_eq waited]
    exact { holds with order, ended := fun left => absurd left (by simp [Phase.after]) }
  · rw [wake_eq waited]
    rw [first] at order
    exact { holds with order, ended := fun left => absurd left (by simp [Phase.after]) }
  · rw [wake_eq waited]
    have gone := holds.isClosed_iff.mp closed
    exact { holds with order, ended := fun _ => ⟨gone.1, gone.2, empty⟩ }

end World

open World

variable {s : Session} {w w' : World}

theorem LoopStep.faithful (step : LoopStep w w') (holds : w.Faithful s) : w'.Faithful s := by
  have order := holds.order
  cases step with
  | @take batch m taking room first =>
      rw [taking, Mailbox.queue_of_take first] at order
      refine { holds with order := ?_, ended := fun left => absurd left (by simp) }
      simpa [Phase.taken] using order
  | handleBatch taking stops some =>
      rw [taking] at order
      exact { holds with order, ended := fun left => absurd left (by simp) }
  | @handle m rest handling now =>
      rw [handling] at order
      refine { holds with order := ?_, session := ?_, ended := fun left => absurd left (by simp [World.handle]) }
      · simpa [World.handle, Phase.taken] using order
      · rw [World.handle, fold_append, ← holds.session]
  | again handling =>
      rw [handling] at order
      exact { holds with order, ended := fun left => absurd left (by simp) }
  | drained taking none =>
      rw [taking] at order
      exact { holds with order, ended := fun left => absurd left (by simp) }
  | wake waiting now later => exact holds.wake waiting now later

theorem Step.faithful (step : Step w w') (holds : w.Faithful s) : w'.Faithful s := by
  have order := holds.order
  cases step with
  | loop step => exact step.faithful holds
  | connect p new granted =>
      obtain ⟨opened, connects⟩ := Mailbox.connect_of_granted granted
      rw [World.connect, connects]
      refine { holds with nodup := .cons (by simpa using new) holds.nodup, connected := ?_, ended := ?_ }
      · simpa using holds.connected
      · intro left
        rw [(holds.ended left).1] at opened
        exact absurd opened (by simp)
  | @clone p there q new =>
      refine { holds with nodup := .cons (by simpa using new) holds.nodup, connected := ?_, ended := ?_ }
      · simpa [World.clone] using holds.connected
      · exact fun left => absurd left (holds.not_left there)
  | @leave p there =>
      refine { holds with nodup := holds.nodup.erase p, connected := ?_, ended := ?_ }
      · show w.mailbox.producers - 1 = (w.producers.erase p).length
        rw [List.length_erase_of_mem there, holds.connected]
      · exact fun left => absurd left (holds.not_left there)
  | @send p there m =>
      rw [World.send, Mailbox.send_of_kept holds.kept]
      refine { holds with order := ?_, ended := fun left => absurd left (holds.not_left there) }
      simp [order]
  | sealOff => exact { holds with ended := fun left => ⟨rfl, (holds.ended left).2⟩ }

theorem Steps.faithful (steps : Steps w w') (holds : w.Faithful s) : w'.Faithful s := by
  induction steps with
  | refl => exact holds
  | tail _ step ih => exact step.faithful ih

namespace World

/-- Messages that are handled as they were accepted are told apart by their senders as those were. -/
theorem handledFrom_eq (p : Nat) (sent : List (Nat × Message)) :
    ∀ handled : List (Message × Instant), handled.map (·.1) <+: sent.map (·.2) →
      ((sent.zip handled).filter (·.1.1 = p)).map (·.2.1) =
        ((sent.take handled.length).filter (·.1 = p)).map (·.2) := by
  induction sent with
  | nil =>
      intro handled _
      simp
  | cons x sent ih =>
      intro handled order
      cases handled with
      | nil => simp
      | cons y handled =>
          obtain ⟨same, order⟩ := List.cons_prefix_cons.mp order
          have rest := ih handled order
          by_cases from' : x.1 = p <;> simp [from', same, rest]

variable {s : Session} {w : World}

/-- What has been handled came first. -/
theorem Faithful.first (holds : w.Faithful s) : w.handled.map (·.1) <+: w.sent.map (·.2) :=
  ⟨_, holds.order.symm⟩

/-- At the end everything has been handled. -/
theorem Faithful.all (holds : w.Faithful s) (left : w.phase = .left) :
    w.handled.map (·.1) = w.sent.map (·.2) := by
  have order := holds.order
  rw [left, (holds.ended left).2.2] at order
  simpa [Phase.taken] using order.symm

theorem Faithful.allOf (holds : w.Faithful s) (left : w.phase = .left) (p : Nat) :
    w.handledFrom p = w.sentBy p := by
  have length : w.handled.length = w.sent.length := by simpa using congrArg List.length (holds.all left)
  rw [handledFrom, handledFrom_eq p w.sent w.handled holds.first, length, List.take_length, sentBy]

/-- What is promised of a schedule that begins with the session `s`. -/
structure Delivers (s : Session) (w : World) : Prop where
  /-- At every moment the messages that have been handled are the first that were accepted. -/
  order : w.handled.map (·.1) <+: w.sent.map (·.2)
  /-- So those of each producer are the first that it sent. -/
  orderOf : ∀ p, w.handledFrom p <+: w.sentBy p
  /-- At the end each that was accepted has been handled, once. -/
  all : w.phase = .left → w.handled.map (·.1) = w.sent.map (·.2)
  allOf : w.phase = .left → ∀ p, w.handledFrom p = w.sentBy p
  session : w.session = fold s w.handled
  /-- A wait ends the loop only when no message is left and nobody is there to send one. -/
  closed_iff : ∀ now later, (w.mailbox.wait w.ticker now later).1 = .closed ↔
    (w.ticker.fire now).1 = false ∧ w.mailbox.queue = [] ∧
      w.mailbox.isSealed = true ∧ w.producers = []

end World

/-- Every schedule of the loop and of any number of producers, whenever they come, send and leave. -/
theorem delivers (s : Session) (t : Ticker) {w : World} (steps : Steps (.start s t) w) :
    w.Delivers s := by
  have holds := steps.faithful (faithful_start s t)
  refine {
    order := holds.first
    orderOf := ?orderOf
    all := holds.all
    allOf := holds.allOf
    session := holds.session
    closed_iff := ?closed_iff }
  case orderOf =>
    intro p
    have first := List.take_prefix w.handled.length w.sent
    rw [handledFrom, handledFrom_eq p w.sent w.handled holds.first]
    exact (first.filter _).map _
  case closed_iff =>
    intro now later
    rw [Mailbox.wait_eq_closed_iff, holds.isClosed_iff]

/-- One producer clones another and sends while a batch is being taken.  A deadline goes before the message
that waits, and the last message comes after everything has been drained. -/
theorem delivers_late : ∃ w : World, Steps (.start (.start .standard) ⟨1, 5⟩) w ∧
    w.Delivers (.start .standard) ∧ w.phase = .left ∧
    w.sent = [(0, .toolStarted (.producer "a") "bash" "ls"), (1, .connectionError "gone"),
      (0, .toolCompleted (.producer "a") [0] "done" none), (1, .connectionRestored)] := by
  have begun : Steps (.start (.start .standard) ⟨1, 5⟩) _ :=
    (((Relation.ReflTransGen.refl.tail (.connect 0 (by decide) rfl)).tail
      (.send (p := 0) (by decide) (.toolStarted (.producer "a") "bash" "ls"))).tail
      (.loop (.take rfl (by decide) rfl))).tail (.clone (p := 0) (by decide) 1 (by decide))
  have batch := (((((begun.tail (.send (p := 1) (by decide) (.connectionError "gone"))).tail
    (.loop (.take rfl (by decide) rfl))).tail (.loop (.handleBatch rfl (.inr rfl) (by simp)))).tail
    (.loop (.handle rfl 1))).tail (.loop (.handle rfl 2))).tail (.loop (.again rfl))
  have ticked := (((batch.tail (.loop (.drained rfl rfl))).tail
    (.send (p := 0) (by decide) (.toolCompleted (.producer "a") [0] "done" none))).tail
    (.leave (p := 0) (by decide))).tail (.loop (.wake rfl 9 9))
  have late := (((((ticked.tail (.loop (.take rfl (by decide) rfl))).tail
    (.loop (.handleBatch rfl (.inr rfl) (by simp)))).tail (.loop (.handle rfl 9))).tail
    (.loop (.again rfl))).tail (.loop (.drained rfl rfl))).tail
    (.send (p := 1) (by decide) .connectionRestored)
  have woken := ((((late.tail .sealOff).tail (.leave (p := 1) (by decide))).tail
    (.loop (.wake rfl 9 9))).tail (.loop (.handle rfl 9))).tail (.loop (.again rfl))
  have ended := (woken.tail (.loop (.drained rfl rfl))).tail (.loop (.wake rfl 9 9))
  exact ⟨_, ended, delivers _ _ ended, rfl, rfl⟩

end Headless

end Chronicle
