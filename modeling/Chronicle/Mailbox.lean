import Chronicle.Message
import Chronicle.Ticker

/-!
The mailbox: a queue of messages between any number of producers and the one session.  The owner
holds a sender of its own until the box is sealed; once every sender is gone and the queue is empty,
waiting ends.
-/

namespace Chronicle

/-- `producers` counts the senders handed out and not yet dropped. -/
structure Mailbox where
  queue : List Message
  producers : Nat
  isSealed : Bool
  isDropped : Bool
deriving DecidableEq, Repr, Inhabited

/-- What waiting ends with. -/
inductive Wake where
  | message (m : Message)
  | tick
  /-- No message is left and nobody can send one. -/
  | closed
deriving DecidableEq, Repr, Inhabited

namespace Mailbox

def empty : Mailbox := ⟨[], 0, false, false⟩

/-- A new producer, unless the box is sealed. -/
def connect (b : Mailbox) : Bool × Mailbox :=
  if b.isSealed || b.isDropped then (false, b)
  else (true, { b with producers := b.producers + 1 })

/-- One producer leaves. -/
def disconnect (b : Mailbox) : Mailbox := { b with producers := b.producers - 1 }

/-- Gives up the owner's sender. -/
def sealOff (b : Mailbox) : Mailbox := { b with isSealed := true }

/-- The owner leaves, and what waited is lost. -/
def drop (b : Mailbox) : Mailbox := { b with queue := [], isSealed := true, isDropped := true }

/-- Puts a message at the end of the queue, while the owner is there. -/
def send (b : Mailbox) (m : Message) : Bool × Mailbox :=
  if b.isDropped then (false, b) else (true, { b with queue := b.queue ++ [m] })

/-- Takes up to `most` messages from the front. -/
def take (b : Mailbox) (most : Nat) : List Message × Mailbox :=
  (b.queue.take most, { b with queue := b.queue.drop most })

/-- Takes all messages. -/
def takeAll (b : Mailbox) : List Message × Mailbox := b.take b.queue.length

/-- Nobody can send any more. -/
def isClosed (b : Mailbox) : Bool := b.isSealed && b.producers == 0

/-- Waits from `now` for a message or the ticker's deadline, and no longer than to `later`; a deadline
that has come goes before the messages that wait. -/
def wait (b : Mailbox) (t : Ticker) (now later : Instant) : Wake × Mailbox × Ticker :=
  if (t.fire now).1 then (.tick, b, (t.fire now).2)
  else match b.queue with
    | m :: queue => (.message m, { b with queue }, t)
    | [] => if b.isClosed then (.closed, b, t) else (.tick, b, (t.fire later).2)

theorem drop_length_lt {b : Mailbox} {most : Nat} (hm : 0 < most) (h : b.queue ≠ []) :
    (b.take most).2.queue.length < b.queue.length := by
  have : 0 < b.queue.length := List.length_pos_iff.2 h
  simp only [take, List.length_drop]
  omega

end Mailbox

end Chronicle
