import NetSession.Record.Header

/-!
# Reading records

`Record.parse` checks every offset of a record before any field is read, so that a parsed record
(`Record`) always gives its fields. With a message length in the header the message is exactly that
long and may hold NULs; without one it ends at its first NUL, which must be the record's last byte.
-/

namespace NetSession

/-- A record as received: its header and its extra block. -/
structure Record where
  /-- The header. -/
  header : Record.Header
  /-- Everything from the start of the extra block on. -/
  extra : Bytes
  deriving DecidableEq, Repr

namespace Record

/-- The bytes of the field at an offset, up to its NUL. -/
def field (r : Record) (offset : UInt8) : Except Fault Bytes :=
  let tail := r.extra.drop offset.toNat
  if r.extra.length ≤ offset.toNat then .error (.offset offset.toNat)
  else if 0 ∈ tail then .ok (tail.takeWhile (· != 0))
  else .error (.unterminated offset.toNat)

/-- The bytes of the message, without the terminator. -/
def messageBytes (r : Record) : Except Fault Bytes :=
  let offset := r.header.msgOffset.toNat
  match r.header.msgLen with
  | some length =>
    let last := offset + length.toNat
    if r.extra.length ≤ last then .error (.offset last)
    else if r.extra[last]? ≠ some 0 then .error (.unterminated offset)
    else .ok ((r.extra.drop offset).take length.toNat)
  | none => do
    let message ← r.field r.header.msgOffset
    if offset + message.length + 1 = r.extra.length then .ok message
    else .error (.unterminated offset)

/-- Reads a record. Later versions are read by their offsets. -/
def parse (bytes : Bytes) : Except Fault Record := do
  let header ← Header.decode bytes
  header.validate
  if bytes.length < header.extraOffset.toNat then throw (.offset header.extraOffset.toNat)
  let r : Record := ⟨header, bytes.drop header.extraOffset.toNat⟩
  let _ ← r.field header.nameOffset
  let _ ← r.field header.tagsOffset
  let _ ← r.field header.fileOffset
  let _ ← r.messageBytes
  return r

/-- The version of a record that is newer than the current one and has a sound header. -/
def newerVersion? (bytes : Bytes) : Option UInt8 :=
  match Header.decode bytes with
  | .error _ => none
  | .ok header =>
    match header.validate with
    | .error _ => none
    | .ok _ => if currentVersion < header.version then some header.version else none

/-- Bytes as text. -/
def textOf (bytes : Bytes) : Except Fault String :=
  match Utf8.string? bytes with
  | some text => .ok text
  | none => .error .notText

/-- The emitter's name. -/
def name (r : Record) : Except Fault String := do textOf (← r.field r.header.nameOffset)

/-- The tags. -/
def tags (r : Record) : Except Fault String := do textOf (← r.field r.header.tagsOffset)

/-- The shortened source file. -/
def file (r : Record) : Except Fault String := do textOf (← r.field r.header.fileOffset)

/-- The message as text. -/
def message (r : Record) : Except Fault String := do textOf (← r.messageBytes)

end Record

end NetSession
