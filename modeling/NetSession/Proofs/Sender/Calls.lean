import NetSession.Proofs.Datagram.Handed
import NetSession.Proofs.Record.Emission
import NetSession.Record.Sender

/-!
# What one call of a sender hands over

A `Call` is one use of a sender: its switch is turned, or a record is made, sent, or both. `record`
is what a call has to hand over, which depends on the switch at that time; it is empty exactly if
the call is silent (`Call.exists_record`). A call that sends does nothing but hand that over
(`call_eq_sendWritten`), and an empty record is not handed over. So it is the same whether an entry
is sent at once or its record is made first and sent then (`send_eq_sendSerialized`). No call but
the one that turns the switch changes the emitter (`emitter_call`).
-/

namespace NetSession.LogSender

open Record

/-- A call of a sender. -/
inductive Call where
  /-- Switches sending on or off. -/
  | setEnabled (enabled : Bool)
  /-- Writes the record for an entry and sends it. -/
  | send (stamp : Stamp) (entry : Emitter.Entry)
  /-- Writes the record for an entry into a buffer, and leaves it there. -/
  | serialize (stamp : Stamp) (buffer : Bytes) (entry : Emitter.Entry)
  /-- Sends a record that was written before. -/
  | sendSerialized (record : Bytes)

/-- What a call returns. -/
inductive Answer where
  /-- Nothing. -/
  | done
  /-- What was written into the buffer. -/
  | serialized (result : Except Record.Fault Written)
  /-- The number of bytes that were sent. -/
  | sent (result : Except Fault Nat)

/-- Makes a call. -/
def call (s : LogSender) : Call → Answer × LogSender
  | .setEnabled enabled => (.done, s.setEnabled enabled)
  | .send stamp entry => (s.send stamp entry).map .sent id
  | .serialize stamp buffer entry => (.serialized (s.serialize stamp buffer entry), s)
  | .sendSerialized record => (s.sendSerialized record).map .sent id

namespace Call

/-- Whether a call is to send something. -/
def sends : Call → Bool
  | .send .. | .sendSerialized _ => true
  | .setEnabled _ | .serialize .. => false

/-- Where a call puts the switch, if it turns it. -/
def enabled? : Call → Option Bool
  | .setEnabled enabled => some enabled
  | .send .. | .serialize .. | .sendSerialized _ => none

/-- The record that a call is to hand over, with the emitter as it is; empty if there is none. -/
def record (emitter : Emitter) : Call → Except Record.Fault Bytes
  | .send stamp entry =>
    (emitter.encode stamp (List.replicate maxRecordSize 0) entry).map Written.record
  | .sendSerialized record => .ok (if emitter.enabled then record else [])
  | .setEnabled _ | .serialize .. => .ok []

/-- A call hands over nothing: the emitter is switched off, a binary message does not fit one
record, the record is empty, or the call is not one that sends. -/
def IsSilent (emitter : Emitter) : Call → Prop
  | .send _ entry => emitter.enabled = false ∨ emitter.Overflows entry
  | .sendSerialized record => emitter.enabled = false ∨ record = []
  | .setEnabled _ | .serialize .. => True

/-- There is a record for each call, and it is empty exactly if the call is silent. -/
theorem exists_record {emitter : Emitter}
    (hname : (Utf8.ofString emitter.name).length ≤ Emitter.maxNameLength) (call : Call) :
    ∃ record, call.record emitter = .ok record ∧ (record = [] ↔ call.IsSilent emitter) := by
  cases call with
  | send stamp entry =>
    have hbuffer : maxRecordSize ≤ (List.replicate maxRecordSize (0 : UInt8)).length :=
      List.length_replicate.ge
    obtain ⟨w, hw⟩ := emitter.exists_encode stamp entry hname
      (Emitter.minRecordSize_le_of_maxRecordSize_le hbuffer)
    refine ⟨w.record, ?_, Emitter.record_encode_eq_nil_iff stamp entry hbuffer hw⟩
    exact congrArg (Except.map Written.record) hw
  | sendSerialized record =>
    refine ⟨_, rfl, ?_⟩
    cases hon : emitter.enabled <;> simp [IsSilent, hon]
  | setEnabled | serialize => exact ⟨[], rfl, iff_of_true rfl trivial⟩

end Call

variable {s : LogSender}

/-- Sending an entry hands over the record that is written for it. -/
theorem send_eq_sendWritten {stamp : Stamp} {entry : Emitter.Entry} {record : Bytes}
    (hrecord : (s.emitter.encode stamp (List.replicate maxRecordSize 0) entry).map Written.record =
      .ok record) : s.send stamp entry = s.sendWritten record := by
  unfold LogSender.send serialize
  cases hencode : s.emitter.encode stamp (List.replicate maxRecordSize 0) entry with
  | error fault => simp [hencode, Except.map] at hrecord
  | ok w =>
    rw [hencode] at hrecord
    obtain rfl : w.record = record := Except.ok.inj hrecord
    rfl

/-- Sending a record that was written before hands it over while sending is on. -/
theorem sendSerialized_eq_sendWritten (record : Bytes) :
    s.sendSerialized record = s.sendWritten (if s.emitter.enabled then record else []) := by
  unfold sendSerialized
  split_ifs <;> rfl

/-- A call that sends hands its record over, and does nothing else. -/
theorem call_eq_sendWritten {call : Call} (hsends : call.sends = true) {record : Bytes}
    (hrecord : call.record s.emitter = .ok record) :
    s.call call = (s.sendWritten record).map .sent id := by
  cases call with
  | send stamp entry => rw [LogSender.call, send_eq_sendWritten hrecord]
  | sendSerialized given =>
    rw [LogSender.call, sendSerialized_eq_sendWritten, ← Except.ok.inj hrecord]
  | setEnabled | serialize => contradiction

/-- To hand over a record leaves the emitter as it is. -/
theorem emitter_sendWritten (record : Bytes) : (s.sendWritten record).2.emitter = s.emitter := by
  unfold sendWritten
  dsimp only
  split_ifs <;> rfl

/-- A call leaves the emitter as it is, but for the switch. -/
theorem emitter_call (call : Call) :
    (s.call call).2.emitter =
      { s.emitter with enabled := call.enabled?.getD s.emitter.enabled } := by
  cases call with
  | setEnabled enabled => rfl
  | serialize stamp buffer entry => rfl
  | send stamp entry =>
    show (s.send stamp entry).2.emitter = s.emitter
    unfold LogSender.send
    split
    · rfl
    · exact emitter_sendWritten _
  | sendSerialized record =>
    show (s.sendSerialized record).2.emitter = s.emitter
    rw [sendSerialized_eq_sendWritten]
    exact emitter_sendWritten _

/-- With a short name, an entry is sent just as if its record were written into a buffer that holds
the longest record, and what was written were sent then. -/
theorem send_eq_sendSerialized
    (hname : (Utf8.ofString s.emitter.name).length ≤ Emitter.maxNameLength)
    (stamp : Stamp) (entry : Emitter.Entry) {buffer : Bytes}
    (hbuffer : maxRecordSize ≤ buffer.length) :
    ∃ w, s.serialize stamp buffer entry = .ok w ∧
      s.send stamp entry = s.sendSerialized w.record := by
  obtain ⟨w, hw⟩ := s.emitter.exists_encode stamp entry hname
    (Emitter.minRecordSize_le_of_maxRecordSize_le hbuffer)
  refine ⟨w, hw, ?_⟩
  have hzeros : (s.emitter.encode stamp (List.replicate maxRecordSize 0) entry).map Written.record =
      .ok w.record := by
    rw [← Emitter.record_encode_congr stamp entry hbuffer List.length_replicate.ge, hw]
    rfl
  have hrecord : (if s.emitter.enabled then w.record else []) = w.record := by
    split_ifs with hon
    · rfl
    · have hoff : s.emitter.enabled = false := Bool.eq_false_iff.mpr hon
      exact ((Emitter.record_encode_eq_nil_iff stamp entry hbuffer hw).mpr (.inl hoff)).symm
  rw [send_eq_sendWritten hzeros, sendSerialized_eq_sendWritten, hrecord]

/-- While the transport runs, a record is handed to it as it is. -/
theorem sendWritten_of_running {record : Bytes} (hne : record ≠ [])
    (hrunning : s.transport.running = true) :
    ∃ notice, s.sendWritten record = (.ok record.length, { s with
      transport := (s.transport.send ⟨s.target, record⟩).2.note (.said notice) }) := by
  have hempty : ¬record.isEmpty = true := by simpa using hne
  unfold sendWritten
  rw [if_neg hempty, Transport.send_eq]
  dsimp only
  rw [if_pos hrunning]
  exact ⟨_, rfl⟩

/-- A transport that has ended takes no record. -/
theorem sendWritten_of_ended {record : Bytes} (hne : record ≠ [])
    (hended : s.transport.running = false) :
    s.sendWritten record = (.error (.closed .transport), { s with
      transport := (s.transport.send ⟨s.target, record⟩).2 }) := by
  have hempty : ¬record.isEmpty = true := by simpa using hne
  unfold sendWritten
  rw [if_neg hempty, Transport.send_eq]
  dsimp only
  rw [if_neg (by simp [hended])]

end NetSession.LogSender
