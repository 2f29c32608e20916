import NetSession.Duration.Basic

/-!
# Moments and timers

Moments are counted from the start of the clock, which never goes back. A timer ticks once every
period. It is looked at on whole milliseconds only, so a tick may be late: a timer that makes up for
missed ticks then ticks again at once until it has caught up; one that puts them off does so only
while it is no more than five milliseconds late, and else counts a whole period from the late tick.
-/

namespace NetSession

/-- A moment. -/
structure Instant where
  /-- The nanoseconds since the start of the clock. -/
  nanos : Nat
  deriving DecidableEq, Repr

namespace Instant

/-- The start of the clock. -/
def zero : Instant := ⟨0⟩

/-- The moment that is a span later. -/
def after (t : Instant) (d : Duration) : Instant := ⟨t.nanos + d.nanos⟩

/-- The whole milliseconds that have passed by then. -/
def millis (t : Instant) : Nat := t.nanos / 1000000

/-- The first whole millisecond that is not before it. -/
def ceilMillis (t : Instant) : Nat := (t.nanos + 999999) / 1000000

/-- The time from an earlier moment to a later one; nothing if the moments are the other way
round. -/
def since (later earlier : Instant) : Duration := ⟨later.nanos - earlier.nanos⟩

end Instant

/-- What a timer does about ticks that it missed. -/
inductive Missed where
  /-- Make up for them. -/
  | burst
  /-- Put off all later ticks. -/
  | delay
  deriving DecidableEq, Repr

/-- A timer that ticks once every period. -/
structure Timer where
  /-- The time between ticks. -/
  period : Duration
  /-- When the next tick is due. -/
  due : Instant
  /-- What it does about missed ticks. -/
  missed : Missed
  deriving DecidableEq, Repr

namespace Timer

/-- How late a tick may be without putting off the ticks after it. -/
def tolerance : Duration := .ofMillis 5

/-- The timer of a heartbeat, which first ticks after a whole period; none for an empty period. -/
def heartbeat? (now : Instant) (period : Duration) : Option Timer :=
  if period.isZero then none else some ⟨period, now.after period, .delay⟩

/-- A timer that ticks at once and makes up for missed ticks. Its period is at least a
millisecond. -/
def rounds (now : Instant) (period : Duration) : Timer :=
  ⟨⟨max period.nanos 1000000⟩, now, .burst⟩

/-- Whether the next tick is due on the millisecond at hand. -/
def isDue (timer : Timer) (now : Instant) : Bool :=
  timer.due.ceilMillis ≤ now.millis

/-- The timer after a tick. -/
def tick (timer : Timer) (now : Instant) : Timer :=
  let late := timer.missed = .delay ∧ tolerance.nanos < (now.since timer.due).nanos
  { timer with due := (if late then now else timer.due).after timer.period }

end Timer

end NetSession
