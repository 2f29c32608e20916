/-!
# Decimal numbers

Unsigned decimal text. Writing gives the digits without a sign or leading zeros; reading takes an
optional plus sign and any number of leading zeros, and says why it refuses a text.
-/

namespace NetSession.Decimal

/-- Why a text is no number below a bound. -/
inductive Fault where
  /-- There is nothing to read. -/
  | empty
  /-- A character is no ASCII digit, or no digit follows the sign. -/
  | invalidDigit
  /-- The digits so far exceed the bound. -/
  | overflow
  deriving DecidableEq, Repr

/-- The wording of a fault. -/
def Fault.message : Fault → String
  | .empty => "cannot parse integer from empty string"
  | .invalidDigit => "invalid digit found in string"
  | .overflow => "number too large to fit in target type"

/-- The first number that does not fit into 32 bits. -/
def bound32 : Nat := 0x100000000

/-- The first number that does not fit into 64 bits. -/
def bound64 : Nat := 0x10000000000000000

/-- The value of an ASCII digit. -/
def digit? (c : Char) : Option Nat :=
  if '0' ≤ c ∧ c ≤ '9' then some (c.toNat - '0'.toNat) else none

/-- Reads digits after a prefix of value `value`; of two faults, the one further left wins. -/
def readDigits (bound : Nat) (value : Nat) : List Char → Except Fault Nat
  | [] => .ok value
  | c :: rest =>
    match digit? c with
    | none => .error .invalidDigit
    | some d =>
      if value * 10 + d < bound then readDigits bound (value * 10 + d) rest
      else .error .overflow

/-- Reads an unsigned number below `bound`. -/
def read (bound : Nat) : List Char → Except Fault Nat
  | [] => .error .empty
  | ['+'] => .error .invalidDigit
  | '+' :: rest => readDigits bound 0 rest
  | text => readDigits bound 0 text

/-- The digits of a number. -/
def render (n : Nat) : List Char := Nat.toDigits 10 n

/-- `n` in at least `width` places, with leading zeros. -/
def padded (width n : Nat) : List Char :=
  let digits := render n
  List.replicate (width - digits.length) '0' ++ digits

end NetSession.Decimal
