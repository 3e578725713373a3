/-!
Time.  Instants and lengths of time are counted in nanoseconds, so that every finer or coarser
unit the library shows is obtained by whole-number division.
-/

namespace Chronicle

/-- A point in time: nanoseconds since the clock's zero. -/
abbrev Instant := Nat

/-- A length of time in nanoseconds. -/
abbrev Duration := Nat

namespace Duration

def nanosPerSecond : Nat := 1000000000

def ofMillis (n : Nat) : Duration := n * 1000000

def ofMicros (n : Nat) : Duration := n * 1000

/-- Whole milliseconds of `d`; the rest is dropped. -/
def toMillis (d : Duration) : Nat := d / 1000000

/-- Whole microseconds of `d`; the rest is dropped. -/
def toMicros (d : Duration) : Nat := d / 1000

/-- Whole seconds of `d`. -/
def seconds (d : Duration) : Nat := d / nanosPerSecond

/-- The nanoseconds of `d` beyond its whole seconds. -/
def subsecNanos (d : Duration) : Nat := d % nanosPerSecond

end Duration

/-- The time from `earlier` to `later`; none has passed when the clock stands before `earlier`. -/
def Instant.since (later earlier : Instant) : Duration := later - earlier

end Chronicle
