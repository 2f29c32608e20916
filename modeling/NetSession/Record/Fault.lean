/-!
# Faults of records

Why a record cannot be written or read.
-/

namespace NetSession.Record

/-- Why a record cannot be written or read. -/
inductive Fault where
  /-- The buffer is shorter than the header with the bytes that every record needs. -/
  | bufferTooSmall (needed available : Nat)
  /-- The name of an emitter is over its budget, or holds a NUL. -/
  | nameTooLong (length : Nat)
  /-- The bytes end inside the header. -/
  | incomplete
  /-- The two marker bytes are others. -/
  | badMagic (first second : UInt8)
  /-- The format version does not exist. -/
  | badVersion (version : UInt8)
  /-- A field lies outside the record. -/
  | offset (offset : Nat)
  /-- No NUL ends a field where one must. -/
  | unterminated (offset : Nat)
  /-- A reserved bit is set. -/
  | reserved
  /-- The bytes of a text field are no UTF-8. -/
  | notText
  deriving DecidableEq, Repr

/-- A byte as two hexadecimal digits. -/
def hexByte (b : UInt8) : String :=
  String.ofList [Nat.digitChar (b.toNat / 16), Nat.digitChar (b.toNat % 16)]

/-- The wording of a fault. -/
def Fault.message : Fault → String
  | .bufferTooSmall needed available =>
    "buffer too small: need " ++ toString needed ++ " bytes, have " ++ toString available
  | .nameTooLong length => "emitter name too long: " ++ toString length ++ " bytes"
  | .incomplete => "incomplete record"
  | .badMagic first second => "bad magic: 0x" ++ hexByte first ++ " 0x" ++ hexByte second
  | .badVersion v => "version unsupported: " ++ toString v.toNat
  | .offset i => "offset out of bounds: " ++ toString i
  | .unterminated i => "unterminated field at offset " ++ toString i
  | .reserved => "reserved bits nonzero"
  | .notText => "field is not valid utf-8"

end NetSession.Record
