import NetSession.Record.Fault
import NetSession.Record.Level
import NetSession.Record.Word

/-!
# Record headers

A record starts with a header. Its base form has 24 bytes: version, two marker bytes, level, time,
process, thread and line as little-endian words, and the offsets of the four fields inside the extra
block that follows the header. The extended form adds four bytes: the length of the message, the
place where the extra block starts, and reserved flags.

`Header.decode` tells the two forms apart by the bytes alone: the extended reading holds if its
three values describe the record consistently (`Header.describes`), the base reading otherwise.
-/

namespace NetSession.Record

/-- The version that is written. -/
def currentVersion : UInt8 := 1

/-- The first marker byte. -/
def magic1 : UInt8 := 0x4c

/-- The second marker byte. -/
def magic2 : UInt8 := 0xaf

/-- The length of the base form. -/
def baseHeaderSize : Nat := 24

/-- The length of the extended form. -/
def headerSize : Nat := 28

/-- The longest record that is ever written. -/
def maxRecordSize : Nat := 1024

/-- The header of a record. -/
structure Header where
  /-- The format version. -/
  version : UInt8
  /-- The severity. -/
  level : Level
  /-- Seconds since 1970, in universal time. -/
  time : Int32
  /-- The process of the emitter. -/
  pid : Int32
  /-- The thread of the caller. -/
  tid : Int32
  /-- The line in the source file. -/
  line : Int32
  /-- Where the emitter's name starts in the extra block. -/
  nameOffset : UInt8
  /-- Where the tags start in the extra block. -/
  tagsOffset : UInt8
  /-- Where the source file starts in the extra block. -/
  fileOffset : UInt8
  /-- Where the message starts in the extra block. -/
  msgOffset : UInt8
  /-- The length of the message without its terminator; the base form has none. -/
  msgLen : Option UInt16
  /-- Where the extra block starts in the record. -/
  extraOffset : UInt8
  /-- Reserved bits. -/
  flags : UInt8
  deriving DecidableEq, Repr

namespace Header

/-- A header of the current version, before any field is placed. -/
def new (level : Level) (time pid tid line : Int32) : Header where
  version := currentVersion
  level := level
  time := time
  pid := pid
  tid := tid
  line := line
  nameOffset := 0
  tagsOffset := 0
  fileOffset := 0
  msgOffset := 0
  msgLen := some 0
  extraOffset := 28
  flags := 0

/-- The extended form. -/
def toBytes (h : Header) : Bytes :=
  [h.version, magic1, magic2, h.level.value.toUInt8]
    ++ Word.ofInt32 h.time ++ Word.ofInt32 h.pid ++ Word.ofInt32 h.tid ++ Word.ofInt32 h.line
    ++ [h.nameOffset, h.tagsOffset, h.fileOffset, h.msgOffset]
    ++ Word.toBytes 2 (h.msgLen.getD 0).toNat
    ++ [h.extraOffset, h.flags]

/-- The extended form has its fixed length. -/
theorem length_toBytes (h : Header) : h.toBytes.length = headerSize := by
  simp [toBytes, Word.ofInt32, headerSize]

/-- Writes the extended form over the front of a buffer. -/
def encode (h : Header) (buffer : Bytes) : Except Fault Bytes :=
  if buffer.length < headerSize then .error (.bufferTooSmall headerSize buffer.length)
  else .ok (h.toBytes ++ buffer.drop headerSize)

/-- The byte at a place; zero past the end. -/
def byteAt (record : Bytes) (i : Nat) : UInt8 := record.getD i 0

/-- The signed word at a place. -/
def wordAt (record : Bytes) (i : Nat) : Int32 := Word.toInt32 ((record.drop i).take 4)

/-- Whether values of the extended fields describe a record consistently: the extra block lies
inside the record and after the base header, no reserved flag of a known version is set, and the
message length leads to a NUL. -/
def describes (record : Bytes) (version msgOffset : UInt8) (msgLen : UInt16)
    (extraOffset flags : UInt8) : Bool :=
  decide (baseHeaderSize ≤ extraOffset.toNat ∧ extraOffset.toNat ≤ record.length)
    && (decide (currentVersion < version) || flags == 0)
    && record[extraOffset.toNat + msgOffset.toNat + msgLen.toNat]? == some 0

/-- The message length in the extended form. -/
def msgLenAt (record : Bytes) : UInt16 := (Word.ofBytes ((record.drop 24).take 2)).toUInt16

/-- Whether a record has the extended form. -/
def isExtended (record : Bytes) : Bool :=
  decide (headerSize ≤ record.length)
    && describes record (byteAt record 0) (byteAt record 23) (msgLenAt record) (byteAt record 26)
      (byteAt record 27)

/-- The header of a record that is long enough, in the form that the bytes have. -/
def readFields (record : Bytes) : Header :=
  let extended := isExtended record
  -- Up to here both forms are alike; only the last three fields depend on the form.
  { version := byteAt record 0
    level := ⟨(byteAt record 3).toInt8⟩
    time := wordAt record 4
    pid := wordAt record 8
    tid := wordAt record 12
    line := wordAt record 16
    nameOffset := byteAt record 20
    tagsOffset := byteAt record 21
    fileOffset := byteAt record 22
    msgOffset := byteAt record 23
    msgLen := if extended then some (msgLenAt record) else none
    extraOffset := if extended then byteAt record 26 else 24
    flags := if extended then byteAt record 27 else 0 }

/-- Reads the header of a record. -/
def decode (record : Bytes) : Except Fault Header :=
  if record.length < baseHeaderSize then .error .incomplete
  else if byteAt record 1 ≠ magic1 ∨ byteAt record 2 ≠ magic2 then
    .error (.badMagic (byteAt record 1) (byteAt record 2))
  else if byteAt record 0 = 0 then .error (.badVersion 0)
  else .ok (readFields record)

/-- Checks what does not depend on the extra block. -/
def validate (h : Header) : Except Fault Unit :=
  if h.version = 0 then .error (.badVersion h.version)
  else if h.extraOffset.toNat < baseHeaderSize then .error (.offset h.extraOffset.toNat)
  else if h.version ≤ currentVersion ∧ h.flags ≠ 0 then .error .reserved
  else .ok ()

end Header

end NetSession.Record
