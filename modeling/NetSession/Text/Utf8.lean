/-!
# UTF-8

Text as bytes. `encode` writes each character in its one shortest form. Reading runs one byte at a
time through the states of an unfinished character (`State`), and gives a `none` for each longest
run of bytes that begins a character but does not finish it, or cannot begin one. `decode?` accepts
bytes without such a run, and `decodeLossy` puts the replacement character in its place.
-/

namespace NetSession

/-- A byte string. -/
abbrev Bytes := List UInt8

namespace Utf8

/-- The bytes of one character: one below `0x80`, two below `0x800`, three below `0x10000`, else
four. -/
def encodeChar (c : Char) : Bytes :=
  let n := c.toNat
  if n < 0x80 then [n.toUInt8]
  else if n < 0x800 then [(0xC0 + n / 0x40).toUInt8, (0x80 + n % 0x40).toUInt8]
  else if n < 0x10000 then
    [(0xE0 + n / 0x1000).toUInt8, (0x80 + n / 0x40 % 0x40).toUInt8, (0x80 + n % 0x40).toUInt8]
  else
    [(0xF0 + n / 0x40000).toUInt8, (0x80 + n / 0x1000 % 0x40).toUInt8,
      (0x80 + n / 0x40 % 0x40).toUInt8, (0x80 + n % 0x40).toUInt8]

/-- The bytes of a text. -/
def encode (text : List Char) : Bytes := text.flatMap encodeChar

/-- What the reader has of the character at hand. -/
inductive State where
  /-- Between characters. -/
  | start
  /-- `left + 1` more bytes are owed, the next of them from `low` to `high`; the bits so far make
  `value`. -/
  | inside (left value low high : Nat)
  deriving DecidableEq, Repr

/-- The state after the first byte of a character, together with the character if it is whole, or
with `none` if no character begins so. -/
def first (b : Nat) : List (Option Char) × State :=
  if b < 0x80 then ([some (Char.ofNat b)], .start)
  else if b < 0xC2 then ([none], .start)
  else if b < 0xE0 then ([], .inside 0 (b - 0xC0) 0x80 0xBF)
  else if b = 0xE0 then ([], .inside 1 0 0xA0 0xBF)
  else if b = 0xED then ([], .inside 1 0xD 0x80 0x9F)
  else if b < 0xF0 then ([], .inside 1 (b - 0xE0) 0x80 0xBF)
  else if b = 0xF0 then ([], .inside 2 0 0x90 0xBF)
  else if b < 0xF4 then ([], .inside 2 (b - 0xF0) 0x80 0xBF)
  else if b = 0xF4 then ([], .inside 2 4 0x80 0x8F)
  else ([none], .start)

/-- One byte: what it completes or breaks off, and the state after it. A byte that does not
continue the character at hand begins the next one. -/
def step : State → Nat → List (Option Char) × State
  | .start, b => first b
  | .inside left value low high, b =>
    if low ≤ b ∧ b ≤ high then
      let value := value * 0x40 + (b - 0x80)
      match left with
      | 0 => ([some (Char.ofNat value)], .start)
      | left + 1 => ([], .inside left value 0x80 0xBF)
    else
      let (parts, state) := first b
      (none :: parts, state)

/-- The characters of `bytes` from a state on, with a `none` for each broken part. -/
def partsFrom : State → Bytes → List (Option Char)
  | .start, [] => []
  | .inside .., [] => [none]
  | state, b :: rest =>
    let (parts, state) := step state b.toNat
    parts ++ partsFrom state rest

/-- The characters of `bytes`, with a `none` for each broken part. -/
def parts (bytes : Bytes) : List (Option Char) := partsFrom .start bytes

/-- The text of `bytes`, if no part of it is broken. -/
def decode? (bytes : Bytes) : Option (List Char) := (parts bytes).mapM id

/-- The text of `bytes`, with the replacement character for each broken part. -/
def decodeLossy (bytes : Bytes) : List Char := (parts bytes).map (·.getD '\uFFFD')

/-- The string that `bytes` hold, if they are valid. -/
def string? (bytes : Bytes) : Option String := (decode? bytes).map String.ofList

/-- The bytes of a string. -/
def ofString (text : String) : Bytes := encode text.toList

end Utf8

end NetSession
