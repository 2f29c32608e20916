import NetSession.Text.Blank
import NetSession.Text.Decimal
import NetSession.Text.Utf8

/-!
# Counting with a peer

Two peers count together: each answers a number with the next one.
-/

namespace NetSession.Counting

/-- The number that a datagram holds: decimal text with NULs at its end and blanks around it. -/
def number? (data : Bytes) : Option Nat := do
  let text ← Utf8.decode? data
  (Decimal.read Decimal.bound64 (Text.trim (Text.dropTail (· == '\x00') text))).toOption

/-- The number to answer a datagram with, if it holds one that has a next. -/
def next? (data : Bytes) : Option Nat := do
  let n ← number? data
  if n + 1 < Decimal.bound64 then some (n + 1) else none

/-- The datagram of a number. -/
def datagram (n : Nat) : Bytes := Utf8.encode (Decimal.render n)

end NetSession.Counting
