/-!
Machine words.  Sizes and counts of lines stop growing at the largest 64-bit number, and the
generation of a slot starts again after the largest 32-bit one.

Everything else has no limit, since no run is long enough to meet one: the counters, the sequence
numbers, and the index of a slot, which as a 32-bit number would tell as many slots apart as a slot
has generations, and give the next one the index of the first.
-/

namespace Chronicle

/-- The largest 64-bit number. -/
def maxWord : Nat := 0xFFFFFFFFFFFFFFFF

/-- The size of the least 64-bit number with a sign; the greatest is one below it. -/
def signedLimit : Nat := 0x8000000000000000

/-- A sum that stays at the largest 64-bit number instead of passing it. -/
def saturatingAdd (a b : Nat) : Nat := min (a + b) maxWord

/-- Generations of a slot before they repeat. -/
def generationLimit : Nat := 0x100000000

/-- The generation after `g`. -/
def nextGeneration (g : Nat) : Nat := (g + 1) % generationLimit

theorem nextGeneration_lt (g : Nat) : nextGeneration g < generationLimit :=
  Nat.mod_lt _ (by decide)

end Chronicle
