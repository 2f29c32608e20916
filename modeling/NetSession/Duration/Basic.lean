import NetSession.Text.Decimal

/-!
# Durations

Spans of time to the nanosecond. The short written form takes the largest of seconds, milliseconds,
microseconds and nanoseconds that leaves a whole part, and as many decimals as are not zero.
-/

namespace NetSession

/-- A span of time. -/
structure Duration where
  /-- Its length in nanoseconds. -/
  nanos : Nat
  deriving DecidableEq, Repr

namespace Duration

/-- A span of whole seconds. -/
def ofSeconds (n : Nat) : Duration := ⟨n * 1000000000⟩

/-- A span of whole milliseconds. -/
def ofMillis (n : Nat) : Duration := ⟨n * 1000000⟩

/-- The whole seconds of a span. -/
def seconds (d : Duration) : Nat := d.nanos / 1000000000

/-- The nanoseconds of a span beyond its whole seconds. -/
def subsecNanos (d : Duration) : Nat := d.nanos % 1000000000

/-- Whether a span is empty. -/
def isZero (d : Duration) : Bool := d.nanos == 0

/-- `n` as a decimal number of units of `10 ^ places`, without zeros at the end of its decimals. -/
def renderDecimal (n places : Nat) : List Char :=
  let decimals := Decimal.padded places (n % Nat.pow 10 places)
  let kept := (decimals.reverse.dropWhile (· == '0')).reverse
  Decimal.render (n / Nat.pow 10 places) ++ if n % Nat.pow 10 places = 0 then [] else '.' :: kept

/-- The short written form. -/
def render (d : Duration) : List Char :=
  if 1000000000 ≤ d.nanos then renderDecimal d.nanos 9 ++ ['s']
  else if 1000000 ≤ d.nanos then renderDecimal d.nanos 6 ++ ['m', 's']
  else if 1000 ≤ d.nanos then renderDecimal d.nanos 3 ++ ['µ', 's']
  else Decimal.render d.nanos ++ ['n', 's']

end Duration

end NetSession
