import NetSession.Text.Decimal

/-!
# IPv4 addresses

Four octets, written as a dotted quad. The grammar is strict: one to three digits an octet, no
leading zeros, nothing around it.
-/

namespace NetSession

/-- An IPv4 address. -/
structure Ipv4 where
  /-- The first octet. -/
  a : UInt8
  /-- The second octet. -/
  b : UInt8
  /-- The third octet. -/
  c : UInt8
  /-- The fourth octet. -/
  d : UInt8
  deriving DecidableEq, Repr

namespace Ipv4

/-- The address that stands for every interface. -/
def unspecified : Ipv4 := ⟨0, 0, 0, 0⟩

/-- The dotted quad. -/
def render (ip : Ipv4) : List Char :=
  Decimal.render ip.a.toNat ++ '.' :: Decimal.render ip.b.toNat ++ '.' ::
    Decimal.render ip.c.toNat ++ '.' :: Decimal.render ip.d.toNat

/-- The value of up to three digits, if they make an octet in its shortest form. -/
def octet? (digits : List Char) : Option UInt8 :=
  match digits with
  | [] => none
  | '0' :: _ :: _ => none
  | _ =>
    if digits.length ≤ 3 then
      match Decimal.readDigits 256 0 digits with
      | .ok n => some n.toUInt8
      | .error _ => none
    else none

/-- Reads an octet at the head of a text; gives it with the rest. -/
def readOctet (text : List Char) : Option (UInt8 × List Char) :=
  (octet? (text.takeWhile Char.isDigit)).map (·, text.dropWhile Char.isDigit)

/-- Reads a dot and an octet at the head of a text. -/
def readDotOctet : List Char → Option (UInt8 × List Char)
  | '.' :: rest => readOctet rest
  | _ => none

/-- Reads an address at the head of a text; gives it with the rest. -/
def readFirst (text : List Char) : Option (Ipv4 × List Char) := do
  let (a, text) ← readOctet text
  let (b, text) ← readDotOctet text
  let (c, text) ← readDotOctet text
  let (d, text) ← readDotOctet text
  some (⟨a, b, c, d⟩, text)

/-- Reads a text that is an address and nothing else. -/
def read (text : List Char) : Option Ipv4 :=
  match readFirst text with
  | some (ip, []) => some ip
  | _ => none

end Ipv4

end NetSession
