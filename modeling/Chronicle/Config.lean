import Chronicle.Binary64
import Chronicle.Clock
import Chronicle.Correlator
import Chronicle.Theme

/-!
The configuration of a session and its screen.
-/

namespace Chronicle

structure Config where
  /-- Finished entries beyond this many are evicted; zero keeps them all. -/
  historyCap : Nat
  /-- Evicted ids that are remembered. -/
  retiredIds : Nat
  /-- Height of the window. -/
  rows : Nat
  /-- Milliseconds between two ticks. -/
  tickMillis : Nat
  /-- How alike an acknowledgement has to be to an instruction. -/
  confirmSimilarity : Binary64
  /-- The author of instructions. -/
  author : String
  theme : Theme
deriving DecidableEq, Repr, Inhabited

namespace Config

/-- The configuration when nothing else is said. -/
def standard : Config where
  historyCap := 2000
  retiredIds := 2000
  rows := 20
  tickMillis := 16
  confirmSimilarity := Correlator.defaultThreshold
  author := "You"
  theme := .standard

/-- The time between two ticks, a millisecond at least. -/
def interval (c : Config) : Duration := Duration.ofMillis (max c.tickMillis 1)

end Config

end Chronicle
