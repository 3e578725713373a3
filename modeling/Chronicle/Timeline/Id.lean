/-!
Correlation ids.  A producer names the action that a message belongs to; the timeline mints ids of
its own for messages that name none.  The two never meet: an id of one sort equals none of the
other, whatever its text.
-/

namespace Chronicle

/-- Links every message of one action to its entry. -/
inductive CorrelationId where
  | producer (value : String)
  | minted (value : String)
deriving DecidableEq, Repr, Inhabited

namespace CorrelationId

def value : CorrelationId → String
  | producer v => v
  | minted v => v

def isMinted : CorrelationId → Bool
  | producer _ => false
  | minted _ => true

/-- The id as messages to the user show it. -/
def display : CorrelationId → String
  | producer v => v
  | minted v => "local:" ++ v

/-- The id minted for the entry that will get the sequence number `sequence`. -/
def mint (sort : String) (sequence : Nat) : CorrelationId :=
  minted (sort ++ "#" ++ toString sequence)

end CorrelationId

end Chronicle
