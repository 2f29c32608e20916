import NetSession.Datagram.Transport
import NetSession.Record.Emitter

/-!
# Senders of log records

An emitter with a transport that its records go out on, to one fixed target. A record is written
into a buffer and handed to the transport as one datagram. Nothing is handed over while the emitter
is disabled, nor for a record that came out empty.
-/

namespace NetSession

/-- A sender of log records. -/
structure LogSender where
  /-- What makes the records. -/
  emitter : Emitter
  /-- What they go out on. -/
  transport : Transport Unit
  /-- Where they go. -/
  target : Endpoint

namespace LogSender

/-- Why a record was not sent. -/
inductive Fault where
  /-- It could not be written. -/
  | record (fault : Record.Fault)
  /-- The transport is gone. -/
  | closed (who : Closed)
  deriving DecidableEq, Repr

/-- The wording of a fault. -/
def Fault.message : Fault → String
  | .record fault => fault.message
  | .closed who => who.message

/-- The address that a sender to a target binds: any of the target's family. -/
def bindAddress (target : Endpoint) : Endpoint :=
  if target.isV6 then .unspecifiedV6 else .unspecifiedV4

/-- A sender whose socket was just bound to an address. -/
def start (emitter : Emitter) (target address : Endpoint) (now : Instant) : LogSender :=
  { emitter, target
    transport := .start { name := emitter.name } address Datagram.Handler.silent () now }

/-- Switches sending on or off. -/
def setEnabled (s : LogSender) (enabled : Bool) : LogSender :=
  { s with emitter := s.emitter.setEnabled enabled }

/-- Writes the record for an entry into a buffer without sending it. -/
def serialize (s : LogSender) (stamp : Stamp) (buffer : Bytes) (entry : Emitter.Entry) :
    Except Record.Fault Record.Written :=
  s.emitter.encode stamp buffer entry

/-- Hands a written record to the transport; gives the number of bytes. -/
def sendWritten (s : LogSender) (record : Bytes) : Except Fault Nat × LogSender :=
  if record.isEmpty then (.ok 0, s)
  else
    let (ok, transport) := s.transport.send ⟨s.target, record⟩
    if ok then
      let said := Console.Notice.say .sender .debug ("[uvx-log] " ++ s.emitter.name ++ " sent "
        ++ toString record.length ++ " byte record to " ++ s.target.text)
      (.ok record.length, { s with transport := transport.note (.said said) })
    else (.error (.closed .transport), { s with transport })

/-- Writes the record for an entry and sends it; gives the number of bytes, which is 0 if nothing
was sent. -/
def send (s : LogSender) (stamp : Stamp) (entry : Emitter.Entry) : Except Fault Nat × LogSender :=
  match s.serialize stamp (List.replicate Record.maxRecordSize 0) entry with
  | .error fault => (.error (.record fault), s)
  | .ok written => s.sendWritten (written.buffer.take written.length)

/-- Sends a record that was written before, unless sending is off. -/
def sendSerialized (s : LogSender) (record : Bytes) : Except Fault Nat × LogSender :=
  if s.emitter.enabled then s.sendWritten record else (.ok 0, s)

/-- Shuts the transport down. -/
def shutdown (s : LogSender) : LogSender :=
  { s with transport := { s.transport with asked := true } }

end LogSender

end NetSession
