import NetSession.Duration.Basic
import NetSession.Text.Blank

/-!
# Reading durations

A duration is written as one or more numbers with units, such as `1h 30m` or `1.5s`, which add up;
a lone `0` needs no unit. Blanks may stand before each number, inside it, and after each unit. A
number may have decimals, as long as they come out even: in whole seconds for hours and anything
longer, in whole nanoseconds for anything shorter.
-/

namespace NetSession.Duration

/-- The units that a number may count. -/
inductive Unit where
  /-- Billionths of a second. -/
  | nanosecond
  /-- Millionths of a second. -/
  | microsecond
  /-- Thousandths of a second. -/
  | millisecond
  /-- Seconds. -/
  | second
  /-- 60 seconds. -/
  | minute
  /-- 60 minutes. -/
  | hour
  /-- 24 hours. -/
  | day
  /-- Seven days. -/
  | week
  /-- 30.44 days. -/
  | month
  /-- 365.25 days. -/
  | year
  deriving DecidableEq, Repr

/-- Why a text is no duration. -/
inductive Fault where
  /-- There is no number. -/
  | empty
  /-- A character stands where a number should start. -/
  | numberExpected
  /-- A character belongs neither to a number nor to a unit. -/
  | invalidCharacter
  /-- The word after a number is no unit. -/
  | unknownUnit (word : String)
  /-- A value is too large, or finer than its unit allows. -/
  | outOfRange
  deriving DecidableEq, Repr

/-- The unit that a word names. -/
def unit? (word : String) : Option Unit :=
  if word ∈ ["nanos", "nsec", "ns"] then some .nanosecond
  else if word ∈ ["usec", "us", "µs"] then some .microsecond
  else if word ∈ ["millis", "msec", "ms"] then some .millisecond
  else if word ∈ ["seconds", "second", "secs", "sec", "s"] then some .second
  else if word ∈ ["minutes", "minute", "min", "mins", "m"] then some .minute
  else if word ∈ ["hours", "hour", "hrs", "hr", "h"] then some .hour
  else if word ∈ ["days", "day", "d"] then some .day
  else if word ∈ ["weeks", "week", "wks", "wk", "w"] then some .week
  else if word ∈ ["months", "month", "M"] then some .month
  else if word ∈ ["years", "year", "yrs", "yr", "y"] then some .year
  else none

/-- How many seconds, or how many nanoseconds, one of a unit is: `(seconds, nanoseconds)`, one of
which is zero. -/
def Unit.size : Unit → Nat × Nat
  | .nanosecond => (0, 1)
  | .microsecond => (0, 1000)
  | .millisecond => (0, 1000000)
  | .second => (1, 0)
  | .minute => (60, 0)
  | .hour => (3600, 0)
  | .day => (86400, 0)
  | .week => (604800, 0)
  | .month => (2630016, 0)
  | .year => (31557600, 0)

/-- The size that decimals of a unit are taken of: nanoseconds for a minute and anything shorter,
seconds for anything longer; none for a nanosecond. -/
def Unit.fineSize : Unit → Option (Nat × Nat)
  | .nanosecond => none
  | .second => some (0, 1000000000)
  | .minute => some (0, 60000000000)
  | unit => some unit.size

/-- The decimals of a number: `numerator / denominator`. -/
structure Decimals where
  /-- The digits as a number. -/
  numerator : Nat
  /-- The power of ten for their count. -/
  denominator : Nat
  deriving DecidableEq, Repr

/-- `n`, unless it is out of bounds. -/
def inBound (n : Nat) : Except Fault Nat :=
  if n < Decimal.bound64 then .ok n else .error .outOfRange

/-- `n / d`, unless it does not come out even. -/
def evenDiv (n d : Nat) : Except Fault Nat :=
  if n % d = 0 then .ok (n / d) else .error .outOfRange

/-- A span with seconds and nanoseconds added. -/
def add (total : Duration) (seconds nanos : Nat) : Except Fault Duration := do
  let nanos ← inBound (total.subsecNanos + nanos)
  let seconds ← inBound (total.seconds + seconds + nanos / 1000000000)
  return ⟨seconds * 1000000000 + nanos % 1000000000⟩

/-- A span with a number of a unit added. -/
def addNumber (total : Duration) (whole : Nat) (decimals : Option Decimals) (word : String) :
    Except Fault Duration := do
  match unit? word with
  | none => throw (.unknownUnit word)
  | some unit =>
    let total ← total.add (← inBound (whole * unit.size.1)) (← inBound (whole * unit.size.2))
    match decimals with
    | none => return total
    | some d =>
      match unit.fineSize with
      | none => throw .outOfRange
      | some (seconds, nanos) =>
        let seconds ← evenDiv (← inBound (d.numerator * seconds)) d.denominator
        let nanos ← evenDiv (← inBound (d.numerator * nanos)) d.denominator
        total.add seconds nanos

/-- Where the reader stands. -/
inductive State where
  /-- Before the first number. -/
  | start
  /-- After a unit. -/
  | between
  /-- Inside the whole part of a number. -/
  | whole (n : Nat)
  /-- Inside its decimals. -/
  | fraction (n : Nat) (decimals : Decimals)
  /-- Inside a unit, whose letters are given in reverse. -/
  | unit (n : Nat) (decimals : Option Decimals) (letters : List Char)
  deriving DecidableEq, Repr

/-- Whether a character may stand in a unit. -/
def isUnitLetter (c : Char) : Bool := c.isAlpha || c == 'µ'

/-- The next state after a character, with what has been added up. -/
def step (total : Duration) (state : State) (c : Char) : Except Fault (Duration × State) :=
  match state with
  | .start | .between =>
    match Decimal.digit? c with
    | some d => .ok (total, .whole d)
    | none => if Text.isBlank c then .ok (total, state) else .error .numberExpected
  | .whole n =>
    match Decimal.digit? c with
    | some d => do return (total, .whole (← inBound (n * 10 + d)))
    | none =>
      if Text.isBlank c then .ok (total, state)
      else if isUnitLetter c then .ok (total, .unit n none [c])
      else if c = '.' then .ok (total, .fraction n ⟨0, 1⟩)
      else .error .invalidCharacter
  | .fraction n decimals =>
    match Decimal.digit? c with
    | some d => do
      let denominator ← inBound (decimals.denominator * 10)
      let numerator ← inBound (decimals.numerator * 10 + d)
      return (total, .fraction n ⟨numerator, denominator⟩)
    | none =>
      if Text.isBlank c then .ok (total, state)
      else if isUnitLetter c ∧ decimals.denominator ≠ 1 then
        .ok (total, .unit n (some decimals) [c])
      else .error .invalidCharacter
  | .unit n decimals letters =>
    match Decimal.digit? c with
    | some d => do
      return (← total.addNumber n decimals (String.ofList letters.reverse), .whole d)
    | none =>
      if Text.isBlank c then do
        return (← total.addNumber n decimals (String.ofList letters.reverse), .between)
      else if isUnitLetter c then .ok (total, .unit n decimals (c :: letters))
      else .error .invalidCharacter

/-- What has been added up when a text ends in a state. -/
def finish (total : Duration) : State → Except Fault Duration
  | .start => .error .empty
  | .between => .ok total
  | .whole _ => .error (.unknownUnit "")
  | .fraction _ decimals =>
    .error (if decimals.denominator = 1 then .invalidCharacter else .unknownUnit "")
  | .unit n decimals letters => total.addNumber n decimals (String.ofList letters.reverse)

/-- Reads on from a state. -/
def readFrom (total : Duration) (state : State) : List Char → Except Fault Duration
  | [] => finish total state
  | c :: rest =>
    match step total state c with
    | .error e => .error e
    | .ok (total, state) => readFrom total state rest

/-- Reads a duration. -/
def read (text : String) : Except Fault Duration :=
  if text = "0" then .ok ⟨0⟩ else readFrom ⟨0⟩ .start text.toList

end NetSession.Duration
