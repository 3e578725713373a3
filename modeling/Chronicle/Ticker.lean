import Chronicle.Clock

/-!
A deadline that comes back at a fixed rate.  Deadlines that were missed are skipped: after a late
call the next one is a period away.
-/

namespace Chronicle

structure Ticker where
  period : Duration
  next : Instant
deriving DecidableEq, Repr, Inhabited

namespace Ticker

/-- The shortest period, a millisecond. -/
def shortestPeriod : Duration := Duration.ofMillis 1

/-- The period when none is given. -/
def defaultPeriod : Duration := Duration.ofMillis 16

/-- A ticker whose first deadline is one period after `now`. -/
def start (period : Duration) (now : Instant) : Ticker :=
  let period := max period shortestPeriod
  ⟨period, now + period⟩

/-- The time left until the deadline. -/
def remaining (t : Ticker) (now : Instant) : Duration := t.next.since now

/-- Whether the deadline has come, and the ticker with the next one. -/
def fire (t : Ticker) (now : Instant) : Bool × Ticker :=
  if now < t.next then (false, t)
  else if t.next + t.period ≤ now then (true, { t with next := now + t.period })
  else (true, { t with next := t.next + t.period })

end Ticker

end Chronicle
