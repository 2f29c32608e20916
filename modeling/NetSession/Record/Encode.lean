import NetSession.Record.Header
import NetSession.Record.Path

/-!
# Writing records

A record is a header and an extra block with four fields, each ended by a NUL: the emitter's name,
the tags, the shortened source file and the message. `encode` lays it over the front of a buffer.

The first three fields and their terminators stay below index 255 of the extra block, so that the
message's offset fits a byte, and each field leaves room for the terminators after it. A text field
ends at its first NUL, and is cut where a character begins if it does not fit. A binary message is
never cut: if it does not fit there is no record, and the first three fields are what is left in the
buffer.
-/

namespace NetSession.Record

/-- What a record says. -/
inductive Payload where
  /-- A text, which may be cut. -/
  | text (text : String)
  /-- Bytes, which are kept whole. -/
  | binary (data : Bytes)
  deriving DecidableEq, Repr

/-- The fields of a record. -/
structure Fields where
  /-- The emitter's name. -/
  name : String
  /-- Tags, with commas between them. -/
  tags : String
  /-- The path of the source file. -/
  file : String
  /-- The message. -/
  message : Payload
  deriving DecidableEq, Repr

/-- The least buffer for a record of an emitter whose name has `nameLength` bytes: the header, the
name, and four terminators. -/
def minRecordSize (nameLength : Nat) : Nat := headerSize + nameLength + 4

/-- The bytes before the first NUL. -/
def beforeNul (bytes : Bytes) : Bytes := bytes.takeWhile (· != 0)

/-- Whether a byte begins a character in UTF-8. -/
def isLeading (b : UInt8) : Bool :=
  b.toNat < 0x80 || (0xC0 ≤ b.toNat && b.toNat < 0xF8)

/-- The nearest place at or before a place of `bytes` where a character begins; the start if there
is none. -/
def charFloor (bytes : Bytes) : Nat → Nat
  | 0 => 0
  | i + 1 => if (bytes[i + 1]?).any isLeading then i + 1 else charFloor bytes i

/-- The part of a text that is kept in a field that starts at index `start` and whose terminator
stands no later than index `last`. -/
def fitText (text : Bytes) (start last : Nat) : Bytes :=
  let bytes := beforeNul text
  if bytes.length < last + 1 - start then bytes else bytes.take (charFloor bytes (last - start))

/-- The last index for the terminator of the name, in an extra block of `room` bytes. -/
def lastForName (room : Nat) : Nat := min 252 (room - 4)

/-- The last index for the terminator of the tags. -/
def lastForTags (room : Nat) : Nat := min 253 (room - 3)

/-- The last index for the terminator of the source file. -/
def lastForFile (room : Nat) : Nat := min 254 (room - 2)

/-- The last index for the terminator of a text message. -/
def lastForMessage (room : Nat) : Nat := room - 1

/-- The first three fields as they are kept in an extra block of `room` bytes. -/
structure Prefix where
  /-- The name as kept. -/
  name : Bytes
  /-- The tags as kept. -/
  tags : Bytes
  /-- The shortened source file as kept. -/
  file : Bytes
  deriving DecidableEq

namespace Prefix

/-- Where the tags start. -/
def tagsOffset (p : Prefix) : Nat := p.name.length + 1

/-- Where the source file starts. -/
def fileOffset (p : Prefix) : Nat := p.tagsOffset + p.tags.length + 1

/-- Where the message starts. -/
def msgOffset (p : Prefix) : Nat := p.fileOffset + p.file.length + 1

/-- The fields with their terminators. -/
def toBytes (p : Prefix) : Bytes := p.name ++ 0 :: p.tags ++ 0 :: p.file ++ [0]

/-- The message starts right behind the fields before it. -/
theorem length_toBytes (p : Prefix) : p.toBytes.length = p.msgOffset := by
  simp only [toBytes, msgOffset, fileOffset, tagsOffset, List.length_append, List.length_cons,
    List.length_nil]
  omega

/-- Fits the first three fields into an extra block of `room` bytes, one after the other. -/
def fit (fields : Fields) (room : Nat) : Prefix :=
  let name := fitText (Utf8.ofString fields.name) 0 (lastForName room)
  let tagsAt := name.length + 1
  let tags := fitText (Utf8.ofString fields.tags) tagsAt (lastForTags room)
  let fileAt := tagsAt + tags.length + 1
  let file := fitText (Utf8.encode (Path.shorten fields.file.toList)) fileAt (lastForFile room)
  ⟨name, tags, file⟩

end Prefix

/-- The message as it is kept behind `start` bytes of an extra block of `room` bytes; none if it is
binary and does not fit with its terminator. -/
def fitMessage? (message : Payload) (start room : Nat) : Option Bytes :=
  match message with
  | .text text => some (fitText (Utf8.ofString text) start (lastForMessage room))
  | .binary data => if room - start < data.length + 1 then none else some data

/-- A buffer with `data` laid over it from index `start` on. -/
def overlay (start : Nat) (data buffer : Bytes) : Bytes :=
  buffer.take start ++ data ++ buffer.drop (start + data.length)

/-- What writing a record leaves behind. -/
structure Written where
  /-- The length of the record; zero if there is none. -/
  length : Nat
  /-- The whole buffer afterwards. -/
  buffer : Bytes
  deriving DecidableEq, Repr

/-- The header of a record whose fields are placed. -/
def Header.place (h : Header) (p : Prefix) (msgLen : Nat) : Header :=
  { h with
    nameOffset := 0
    tagsOffset := p.tagsOffset.toUInt8
    fileOffset := p.fileOffset.toUInt8
    msgOffset := p.msgOffset.toUInt8
    msgLen := some msgLen.toUInt16
    extraOffset := headerSize.toUInt8
    flags := 0 }

/-- Writes a record over the front of a buffer. The offsets, the message length, the start of the
extra block and the flags are set here; the rest of the header is written as given. -/
def encode (buffer : Bytes) (header : Header) (fields : Fields) : Except Fault Written :=
  let capacity := min buffer.length maxRecordSize
  let needed := minRecordSize (Utf8.ofString fields.name).length
  if capacity < needed then .error (.bufferTooSmall needed capacity)
  else
    let room := capacity - headerSize
    let kept := Prefix.fit fields room
    match fitMessage? fields.message kept.msgOffset room with
    -- The fields before the message are in the buffer when it shows that the message has no room.
    | none => .ok ⟨0, overlay headerSize kept.toBytes buffer⟩
    | some message =>
      let record := (header.place kept message.length).toBytes ++ kept.toBytes ++ message ++ [0]
      .ok ⟨record.length, overlay 0 record buffer⟩

end NetSession.Record
