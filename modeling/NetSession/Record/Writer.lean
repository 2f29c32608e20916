import NetSession.Record.Encode

/-!
# Writing in place

The steps in which a record gets into a buffer. The extra block is filled from its start on, each
field with its terminator, and every field is placed where the one before it ended (`Writer`). Only
then the header is known, and it is written over the front of the same buffer. A buffer that is too
small is left alone; that a binary message has no room shows when the fields before it are already
there.

`encode` gives the result of all steps at once.
-/

namespace NetSession.Record

/-- A cursor over the extra block of a buffer. -/
structure Writer where
  /-- The extra block. -/
  block : Bytes
  /-- Where the next field starts. -/
  position : Nat
  deriving DecidableEq, Repr

namespace Writer

/-- Lays bytes over the block with a terminator behind them, and moves on. -/
def put (w : Writer) (data : Bytes) : Writer where
  block := (overlay w.position data w.block).set (w.position + data.length) 0
  position := w.position + data.length + 1

/-- Writes what is kept of a text in a field whose terminator stands no later than index `last`. -/
def putText (w : Writer) (text : Bytes) (last : Nat) : Writer :=
  w.put (fitText text w.position last)

/-- Writes bytes, if all of them have room with their terminator. -/
def putWhole? (w : Writer) (data : Bytes) : Option Writer :=
  if w.block.length - w.position < data.length + 1 then none else some (w.put data)

/-- Writes a message: a text as far as it has room, bytes as a whole or not at all. -/
def putMessage? (w : Writer) : Payload → Option Writer
  | .text text => some (w.putText (Utf8.ofString text) (lastForMessage w.block.length))
  | .binary data => w.putWhole? data

end Writer

/-- Writers at the starts of the four fields. -/
structure Starts where
  /-- At the start of the name. -/
  name : Writer
  /-- At the start of the tags. -/
  tags : Writer
  /-- At the start of the source file. -/
  file : Writer
  /-- At the start of the message. -/
  message : Writer

/-- Writes the fields before the message into a block. Each of them leaves room for the terminators
after it. -/
def Starts.fill (block : Bytes) (fields : Fields) : Starts :=
  let room := block.length
  let name : Writer := ⟨block, 0⟩
  let tags := name.putText (Utf8.ofString fields.name) (lastForName room)
  let file := tags.putText (Utf8.ofString fields.tags) (lastForTags room)
  let message := file.putText (Utf8.encode (Path.shorten fields.file.toList)) (lastForFile room)
  ⟨name, tags, file, message⟩

/-- A header with what is known of the fields once the message has been written as well. -/
def Starts.header (starts : Starts) (ended : Writer) (header : Header) : Header :=
  { header with
    nameOffset := starts.name.position.toUInt8
    tagsOffset := starts.tags.position.toUInt8
    fileOffset := starts.file.position.toUInt8
    msgOffset := starts.message.position.toUInt8
    msgLen := some (ended.position - starts.message.position - 1).toUInt16
    extraOffset := headerSize.toUInt8
    flags := 0 }

/-- The part of a buffer that the extra block of a record may take. -/
def blockIn (buffer : Bytes) : Bytes :=
  (buffer.take (min buffer.length maxRecordSize)).drop headerSize

/-- Writes a record over the front of a buffer. Gives the length of the record, which is zero if
there is none, and the whole buffer afterwards. -/
def write (buffer : Bytes) (header : Header) (fields : Fields) : Except Fault Nat × Bytes :=
  let capacity := min buffer.length maxRecordSize
  let needed := minRecordSize (Utf8.ofString fields.name).length
  if capacity < needed then (.error (.bufferTooSmall needed capacity), buffer)
  else
    let starts := Starts.fill (blockIn buffer) fields
    match starts.message.putMessage? fields.message with
    | none => (.ok 0, overlay headerSize starts.message.block buffer)
    | some ended =>
      let filled := overlay headerSize ended.block buffer
      match (starts.header ended header).encode filled with
      | .error fault => (.error fault, filled)
      | .ok written => (.ok (headerSize + ended.position), written)

end NetSession.Record
