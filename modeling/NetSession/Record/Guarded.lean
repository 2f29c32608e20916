import NetSession.Record.Writer

/-!
# Writing under guard

The steps of `write`, with a guard at each of them that looks at what the step takes for granted:
that a place is inside the bytes, that a difference is not below zero, that a number fits the bytes
that are to hold it, that a text is cut between characters. A step whose guard finds fault is not
done, and ends the writing with a `Breach`. Sums have no guard: they are of lengths and places of
bytes that are in memory.

`Guarded.write` gives a breach or what `write` gives, and the guards never find fault: see
`Proofs/Record/Unbreached`.
-/

namespace NetSession.Record

/-- What a step can take for granted in vain. -/
inductive Breach where
  /-- The difference of a number and a greater one. -/
  | belowZero (number subtrahend : Nat)
  /-- A place outside the bytes. -/
  | outside (place length : Nat)
  /-- Bytes from one place to another that is before it, or outside the bytes. -/
  | noSlice (start stop length : Nat)
  /-- Bytes copied over more or fewer of them. -/
  | unequal (source target : Nat)
  /-- A text cut inside a character. -/
  | insideCharacter (place : Nat)
  /-- A field whose last index is before its start, or outside the extra block. -/
  | noRoom (start last length : Nat)
  /-- A number beyond what its bytes can say. -/
  | tooLarge (number : Nat)
  deriving DecidableEq, Repr

namespace Guarded

/-! ## Single steps -/

/-- A difference. -/
def sub (number subtrahend : Nat) : Except Breach Nat :=
  if subtrahend ≤ number then .ok (number - subtrahend)
  else .error (.belowZero number subtrahend)

/-- The byte at a place. -/
def get (bytes : Bytes) (place : Nat) : Except Breach UInt8 :=
  match bytes[place]? with
  | some b => .ok b
  | none => .error (.outside place bytes.length)

/-- Bytes with another one at a place. -/
def set (bytes : Bytes) (place : Nat) (b : UInt8) : Except Breach Bytes :=
  if place < bytes.length then .ok (bytes.set place b)
  else .error (.outside place bytes.length)

/-- The bytes from one place up to another. -/
def slice (bytes : Bytes) (start stop : Nat) : Except Breach Bytes :=
  if start ≤ stop ∧ stop ≤ bytes.length then .ok ((bytes.take stop).drop start)
  else .error (.noSlice start stop bytes.length)

/-- Bytes with others copied over those from one place up to another. -/
def copy (bytes : Bytes) (start stop : Nat) (data : Bytes) : Except Breach Bytes := do
  let target ← slice bytes start stop
  if target.length = data.length then .ok (overlay start data bytes)
  else .error (.unequal data.length target.length)

/-- A number in one byte. -/
def toByte (number : Nat) : Except Breach UInt8 :=
  if number < 256 then .ok number.toUInt8 else .error (.tooLarge number)

/-- A number in two bytes. -/
def toShort (number : Nat) : Except Breach UInt16 :=
  if number < 65536 then .ok number.toUInt16 else .error (.tooLarge number)

/-! ## Paths -/

/-- Whether a byte of a path separates its parts. -/
def isSeparatorByte (b : UInt8) : Bool := b == 0x2F || b == 0x5C

/-- On the way back from a place, the place of the separator before which `skip` others were met. -/
def separatorBefore (bytes : Bytes) : Nat → Nat → Option Nat
  | _, 0 => none
  | skip, place + 1 =>
    if (bytes[place]?).any isSeparatorByte then
      match skip with
      | 0 => some place
      | skip + 1 => separatorBefore bytes skip place
    else separatorBefore bytes skip place

/-- Whether no character of a text is cut at a place of its bytes. -/
def isBoundary (bytes : Bytes) (place : Nat) : Bool :=
  place == 0 || place == bytes.length ||
    (bytes[place]?).any fun b => b.toNat < 0x80 || 0xC0 ≤ b.toNat

/-- What follows a place of a text. -/
def textFrom (bytes : Bytes) (place : Nat) : Except Breach Bytes :=
  if isBoundary bytes place then .ok (bytes.drop place) else .error (.insideCharacter place)

/-- The bytes of a shortened path. -/
def shorten (path : List Char) : Except Breach Bytes :=
  let bytes := Utf8.encode path
  match separatorBefore bytes 2 bytes.length with
  | some place => textFrom bytes (place + 1)
  | none => .ok (Utf8.encode (path.dropWhile Path.isSeparator))

/-! ## Fields -/

/-- The bytes before the first NUL. -/
def beforeNul (bytes : Bytes) : Except Breach Bytes :=
  match bytes.findIdx? (· == 0) with
  | some nul => slice bytes 0 nul
  | none => .ok bytes

/-- On the way back from a place, the first where a character begins; the start if there is none. -/
def leadingBefore (bytes : Bytes) : Nat → Except Breach Nat
  | 0 => .ok 0
  | place + 1 => do
    if isLeading (← get bytes (place + 1)) then .ok (place + 1) else leadingBefore bytes place

/-- The nearest place at or before a place where a character begins. -/
def charFloor (bytes : Bytes) (place : Nat) : Except Breach Nat :=
  if bytes.length ≤ place then .ok bytes.length else leadingBefore bytes place

/-- Lays bytes over the block with a terminator behind them, and moves on. -/
def put (w : Writer) (data : Bytes) : Except Breach Writer := do
  let copied ← copy w.block w.position (w.position + data.length) data
  let ended ← set copied (w.position + data.length) 0
  return ⟨ended, w.position + data.length + 1⟩

/-- How many of some bytes are kept where so many have room, the terminator being one of them. -/
def keptLength (bytes : Bytes) (room : Nat) : Except Breach Nat := do
  if bytes.length < room then return bytes.length
  else charFloor bytes (← sub room 1)

/-- Writes what is kept of a text in a field whose terminator stands no later than index `last`. -/
def putText (w : Writer) (text : Bytes) (last : Nat) : Except Breach Writer := do
  if w.position ≤ last ∧ last < w.block.length then
    let bytes ← beforeNul text
    let kept ← keptLength bytes (← sub (last + 1) w.position)
    put w (← slice bytes 0 kept)
  else throw (.noRoom w.position last w.block.length)

/-- Writes bytes that end before a place with their terminator, if all of them have room. -/
def putWhole? (w : Writer) (data : Bytes) (stop : Nat) : Except Breach (Option Writer) := do
  let room ← sub (min stop w.block.length) w.position
  if room < data.length + 1 then return none
  else return some (← put w data)

/-- Writes a message. -/
def putMessage? (w : Writer) : Payload → Except Breach (Option Writer)
  | .text text => do
    return some (← putText w (Utf8.ofString text) (← sub w.block.length 1))
  | .binary data => putWhole? w data w.block.length

/-- The last index for the terminator of a field before the message, with so many fields after
it. -/
def lastFor (fieldsAfter room : Nat) : Except Breach Nat := do
  return min (← sub 255 fieldsAfter) (← sub room (fieldsAfter + 1))

/-! ## Headers -/

/-- Lays pieces over a buffer one behind the other. -/
def putAll (buffer : Bytes) (place : Nat) : List Bytes → Except Breach Bytes
  | [] => .ok buffer
  | piece :: pieces => do
    let copied ← copy buffer place (place + piece.length) piece
    putAll copied (place + piece.length) pieces

/-- The pieces of a header in its extended form. -/
def pieces (h : Header) : List Bytes :=
  [[h.version], [magic1], [magic2], [h.level.value.toUInt8], Word.ofInt32 h.time,
    Word.ofInt32 h.pid, Word.ofInt32 h.tid, Word.ofInt32 h.line, [h.nameOffset], [h.tagsOffset],
    [h.fileOffset], [h.msgOffset], Word.toBytes 2 (h.msgLen.getD 0).toNat, [h.extraOffset],
    [h.flags]]

/-- Writes a header over the front of a buffer. -/
def encode (h : Header) (buffer : Bytes) : Except Breach (Except Fault Bytes) := do
  if buffer.length < headerSize then
    return .error (.bufferTooSmall headerSize buffer.length)
  else return .ok (← putAll buffer 0 (pieces h))

/-! ## Records -/

/-- Writes the fields before the message into a block. -/
def fill (block : Bytes) (fields : Fields) : Except Breach Starts := do
  let name : Writer := ⟨block, 0⟩
  let tags ← putText name (Utf8.ofString fields.name) (← lastFor 3 block.length)
  let file ← putText tags (Utf8.ofString fields.tags) (← lastFor 2 block.length)
  let message ← putText file (← shorten fields.file.toList) (← lastFor 1 block.length)
  return ⟨name, tags, file, message⟩

/-- A header with what is known of the fields once the message has been written as well. -/
def header (starts : Starts) (ended : Writer) (header : Header) : Except Breach Header := do
  return { header with
    nameOffset := ← toByte starts.name.position
    tagsOffset := ← toByte starts.tags.position
    fileOffset := ← toByte starts.file.position
    msgOffset := ← toByte starts.message.position
    msgLen := some (← toShort (← sub (← sub ended.position starts.message.position) 1))
    extraOffset := ← toByte headerSize
    flags := 0 }

/-- Writes a record over the front of a buffer. -/
def write (buffer : Bytes) (h : Header) (fields : Fields) :
    Except Breach (Except Fault Nat × Bytes) := do
  let capacity := min buffer.length maxRecordSize
  let needed := minRecordSize (Utf8.ofString fields.name).length
  if capacity < needed then return (.error (.bufferTooSmall needed capacity), buffer)
  else
    let block ← slice buffer headerSize capacity
    let starts ← fill block fields
    match ← putMessage? starts.message fields.message with
    | none =>
      -- The notice of a dropped message says how much room there was.
      let _ ← sub block.length starts.message.position
      return (.ok 0, overlay headerSize starts.message.block buffer)
    | some ended =>
      let filled := overlay headerSize ended.block buffer
      match ← encode (← header starts ended h) filled with
      | .error fault => return (.error fault, filled)
      | .ok written => return (.ok (headerSize + ended.position), written)

end Guarded

end NetSession.Record
