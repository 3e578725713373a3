import Chronicle.Message
import Chronicle.Text.Lines
import Chronicle.Text.Utf8

/-!
Streaming the output of a running tool.  A subscription names the entry to write into and holds
its lease, so it is alive exactly as long as the store grants that; beside this, a token lets the
user stop the stream earlier.  All subscriptions to one running entry share one token.
-/

namespace Chronicle

/-- The tokens handed out: the number of the next one, the ones of entries that still run, and the
ones that are cancelled. -/
structure Tokens where
  next : Nat
  held : List (Key × Nat)
  cancelled : List Nat
deriving DecidableEq, Repr, Inhabited

namespace Tokens

def empty : Tokens := ⟨0, [], []⟩

def isCancelled (t : Tokens) (token : Nat) : Bool := t.cancelled.contains token

/-- The token of the entry of a key. -/
def get? (t : Tokens) (k : Key) : Option Nat := t.held.lookup k

/-- The token of the entry of a key, a new one when there is none. -/
def obtain (t : Tokens) (k : Key) : Nat × Tokens :=
  match t.get? k with
  | some token => (token, t)
  | none => (t.next, { t with next := t.next + 1, held := (k, t.next) :: t.held })

/-- Lets go of the token of the entry of a key; a token already handed out stays as it is. -/
def release (t : Tokens) (k : Key) : Tokens :=
  { t with held := t.held.filter (·.1 ≠ k) }

def cancel (t : Tokens) (token : Nat) : Tokens :=
  if t.isCancelled token then t else { t with cancelled := token :: t.cancelled }

end Tokens

/-- A stream into a running entry. -/
structure Subscription where
  target : Key
  lease : Lease
  token : Nat
deriving DecidableEq, Repr, Inhabited

/-- Nothing can be pushed into the stream any more. -/
inductive StreamError where
  | closed
deriving DecidableEq, Repr

def StreamError.message : StreamError → String
  | closed => "stream target is gone"

namespace Subscription

def isAlive (u : Subscription) (s : Store) : Bool := s.isGranted u.lease

/-- The message that one more chunk becomes, while the stream is alive. -/
def push (u : Subscription) (s : Store) (chunk : String) : Except StreamError Message :=
  if u.isAlive s then .ok (.streamDelta u.target chunk) else .error .closed

end Subscription

/-- The lines that a pump pushes from the `n`-th on.  It stops at the first line that is not text,
and at the first one before which it may no longer push. -/
def pumpLines (mayPush : Nat → Bool) (n : Nat) : List (List UInt8) → List String
  | [] => []
  | line :: rest =>
    match Text.Utf8.decodeString line with
    | none => []
    | some text => if mayPush n then text :: pumpLines mayPush (n + 1) rest else []

/-- The messages of a pump that reads to the end of `bytes`. -/
def Subscription.pump (u : Subscription) (mayPush : Nat → Bool) (bytes : List UInt8) :
    List Message :=
  (pumpLines mayPush 0 (Text.byteLines bytes)).map (.streamDelta u.target)

end Chronicle
