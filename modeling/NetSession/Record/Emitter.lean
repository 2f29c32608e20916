import NetSession.Record.Encode

/-!
# Emitters

A named source of records that can be switched off. It stamps each record with the process that it
was made in, and with the time and thread of the call.
-/

namespace NetSession

/-- A named source of records. -/
structure Emitter where
  /-- The name, at most 15 bytes without a NUL. -/
  name : String
  /-- Whether it produces records. -/
  enabled : Bool
  /-- The process that it was made in. -/
  pid : Int32
  deriving DecidableEq, Repr

/-- When and where a record is made. -/
structure Stamp where
  /-- Seconds since 1970, in universal time. -/
  time : Int32
  /-- The number of the calling thread. -/
  tid : Int32
  deriving DecidableEq, Repr

namespace Emitter

/-- The most bytes that a name may have. -/
def maxNameLength : Nat := 15

/-- The name of an emitter that is not given one. -/
def defaultName : String := "loge"

/-- Checks a name against its budget. -/
def checkName (name : String) : Except Record.Fault Unit :=
  let bytes := Utf8.ofString name
  if maxNameLength < bytes.length ∨ 0 ∈ bytes then .error (.nameTooLong bytes.length) else .ok ()

/-- An enabled emitter of a process. -/
def new (name : String) (pid : Int32) : Except Record.Fault Emitter := do
  checkName name
  return ⟨name, true, pid⟩

/-- An enabled emitter with the default name. -/
def unnamed (pid : Int32) : Emitter := ⟨defaultName, true, pid⟩

/-- Renames an emitter. -/
def setName (emitter : Emitter) (name : String) : Except Record.Fault Emitter := do
  checkName name
  return { emitter with name := name }

/-- Switches an emitter on or off. -/
def setEnabled (emitter : Emitter) (enabled : Bool) : Emitter := { emitter with enabled := enabled }

/-- What is said at one place in a program. -/
structure Entry where
  /-- The severity. -/
  level : Level
  /-- Tags, with commas between them. -/
  tags : String
  /-- The message. -/
  message : Record.Payload
  /-- The path of the source file. -/
  file : String
  /-- The line in the source file. -/
  line : UInt32
  deriving DecidableEq, Repr

/-- The header of the record for an entry. -/
def header (emitter : Emitter) (stamp : Stamp) (entry : Entry) : Record.Header :=
  .new entry.level stamp.time emitter.pid stamp.tid entry.line.toInt32

/-- Writes the record for an entry over the front of a buffer. A disabled emitter writes nothing. -/
def encode (emitter : Emitter) (stamp : Stamp) (buffer : Bytes) (entry : Entry) :
    Except Record.Fault Record.Written :=
  if emitter.enabled then
    Record.encode buffer (emitter.header stamp entry)
      ⟨emitter.name, entry.tags, entry.file, entry.message⟩
  else .ok ⟨0, buffer⟩

end Emitter

/-- The numbers of threads: each thread is numbered when it first asks, from one on. -/
structure ThreadNumbers where
  /-- The threads that have asked, in order. -/
  known : List Nat := []

/-- The number of a thread, and the numbers after it has asked. -/
def ThreadNumbers.ask (numbers : ThreadNumbers) (thread : Nat) : Int32 × ThreadNumbers :=
  match numbers.known.idxOf? thread with
  | some i => (Int32.ofNat (i + 1), numbers)
  | none => (Int32.ofNat (numbers.known.length + 1), ⟨numbers.known ++ [thread]⟩)

end NetSession
