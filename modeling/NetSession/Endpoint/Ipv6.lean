import NetSession.Endpoint.Ipv4

/-!
# IPv6 addresses

Eight groups of sixteen bits. Written form: lower-case hexadecimal groups without leading zeros, the
first longest run of at least two zero groups shortened to `::`, and an IPv4-mapped address with its
last two groups as a dotted quad. Reading accepts every usual form: any letter case, up to four
digits a group, at most one `::` in place of one or more zero groups, and a dotted quad in place of
the last two groups of either side.
-/

namespace NetSession

/-- An IPv6 address: its eight groups, in order. -/
structure Ipv6 where
  /-- The groups. -/
  groups : List UInt16
  /-- There are eight. -/
  length_groups : groups.length = 8
  deriving DecidableEq

namespace Ipv6

/-- The address that stands for every interface. -/
def unspecified : Ipv6 := ⟨[0, 0, 0, 0, 0, 0, 0, 0], rfl⟩

/-- The IPv4 address that an IPv4-mapped address stands for. -/
def mapped? (ip : Ipv6) : Option Ipv4 :=
  match ip.groups with
  | [0, 0, 0, 0, 0, 0xFFFF, high, low] =>
    some ⟨(high / 256).toUInt8, (high % 256).toUInt8, (low / 256).toUInt8, (low % 256).toUInt8⟩
  | _ => none

/-- One group in hexadecimal. -/
def renderGroup (group : UInt16) : List Char := Nat.toDigits 16 group.toNat

/-- Groups with colons between them. -/
def renderGroups (groups : List UInt16) : List Char :=
  [':'].intercalate (groups.map renderGroup)

/-- The length of the run of zero groups at the head. -/
def zeroRun (groups : List UInt16) : Nat := (groups.takeWhile (· == 0)).length

/-- The start and length of the first longest run of zero groups, counting positions from `start`;
`(0, 0)` if no group is zero. -/
def longestZeroRun (start : Nat) : List UInt16 → Nat × Nat
  | [] => (0, 0)
  | group :: rest =>
    let here := zeroRun (group :: rest)
    let (later, length) := longestZeroRun (start + 1) rest
    if here < length ∨ here = 0 then (later, length) else (start, here)

/-- The written form of an address. -/
def render (ip : Ipv6) : List Char :=
  match ip.mapped? with
  | some v4 => "::ffff:".toList ++ v4.render
  | none =>
    let (start, length) := longestZeroRun 0 ip.groups
    if 1 < length then
      renderGroups (ip.groups.take start) ++ [':', ':']
        ++ renderGroups (ip.groups.drop (start + length))
    else renderGroups ip.groups

/-- The value of a hexadecimal digit of either case. -/
def hexDigit? (c : Char) : Option Nat :=
  if '0' ≤ c ∧ c ≤ '9' then some (c.toNat - '0'.toNat)
  else if 'a' ≤ c ∧ c ≤ 'f' then some (c.toNat - 'a'.toNat + 10)
  else if 'A' ≤ c ∧ c ≤ 'F' then some (c.toNat - 'A'.toNat + 10)
  else none

/-- The value of hexadecimal digits, the highest first. -/
def hexValue (digits : List Char) : Nat :=
  digits.foldl (fun value c => value * 16 + (hexDigit? c).getD 0) 0

/-- Reads one to four hexadecimal digits at the head of a text, which no further digit follows. -/
def readGroup (text : List Char) : Option (UInt16 × List Char) :=
  let digits := text.takeWhile fun c => (hexDigit? c).isSome
  if digits.length = 0 ∨ 4 < digits.length then none
  else some ((hexValue digits).toUInt16, text.drop digits.length)

/-- The text after the colon that must precede every group but the first. -/
def afterSeparator (first : Bool) (text : List Char) : Option (List Char) :=
  if first then some text
  else
    match text with
    | ':' :: rest => some rest
    | _ => none

/-- What a run of groups was read as. -/
structure Groups where
  /-- The groups read. -/
  groups : List UInt16
  /-- Whether a dotted quad gave the last two. -/
  dotted : Bool
  /-- The text after them. -/
  rest : List Char

/-- Reads at most `room` groups with colons between them. A dotted quad counts for two groups and
ends the run; whatever is no group ends it too. -/
def readGroups (first : Bool) : Nat → List Char → Groups
  | 0, text => ⟨[], false, text⟩
  | room + 1, text =>
    let quad :=
      if room = 0 then none else (afterSeparator first text).bind Ipv4.readFirst
    match quad with
    | some (ip, rest) =>
      ⟨[ip.a.toUInt16 * 256 + ip.b.toUInt16, ip.c.toUInt16 * 256 + ip.d.toUInt16], true, rest⟩
    | none =>
      match (afterSeparator first text).bind readGroup with
      | none => ⟨[], false, text⟩
      | some (group, rest) =>
        let more := readGroups false room rest
        ⟨group :: more.groups, more.dotted, more.rest⟩

/-- The address of eight groups. -/
def ofGroups? (groups : List UInt16) : Option Ipv6 :=
  if h : groups.length = 8 then some ⟨groups, h⟩ else none

/-- Reads a text that is an address and nothing else. -/
def read (text : List Char) : Option Ipv6 :=
  let head := readGroups true 8 text
  if head.groups.length = 8 then
    if head.rest = [] then ofGroups? head.groups else none
  else if head.dotted then none
  else
    match head.rest with
    | ':' :: ':' :: rest =>
      let tail := readGroups true (7 - head.groups.length) rest
      if tail.rest = [] then
        let zeros := List.replicate (8 - head.groups.length - tail.groups.length) 0
        ofGroups? (head.groups ++ zeros ++ tail.groups)
      else none
    | _ => none

end Ipv6

end NetSession
