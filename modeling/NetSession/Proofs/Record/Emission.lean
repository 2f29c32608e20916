import NetSession.Proofs.Record.Stored
import NetSession.Record.Emitter

/-!
# What an emitter writes

Writing looks at no more of a buffer than its length, and at no more of that than the longest record
has. So all buffers that hold the longest record get the same one (`record_encode_congr`). The name
of an emitter is short (`new_eq_ok`), so that it never fails to write into such a buffer
(`exists_encode`); whether there is a record then depends on the switch, and for a binary message on
the room that is left for it (`record_encode_eq_nil_iff`).
-/

namespace NetSession

namespace Record

/-- The record that was written. -/
def Written.record (w : Written) : Bytes := w.buffer.take w.length

/-- Buffers with the same capacity get the same record. -/
theorem record_encode_congr {buffer other : Bytes} {header : Header} {fields : Fields}
    (hcapacity : min buffer.length maxRecordSize = min other.length maxRecordSize) :
    (encode buffer header fields).map Written.record =
      (encode other header fields).map Written.record := by
  have hroom : roomIn buffer = roomIn other := by rw [roomIn, roomIn, hcapacity]
  obtain ⟨hsize, heq⟩ | ⟨hsize, hnone, heq⟩ | ⟨hsize, f, hkeeps, heq⟩ :=
    encode_cases buffer header fields
  · rw [hcapacity] at hsize heq
    rw [heq, encode_of_lt hsize]
  · rw [hcapacity] at hsize
    rw [hroom] at hnone
    rw [heq, encode_of_fitMessage?_eq_none hsize hnone]
    rfl
  · rw [hcapacity] at hsize
    rw [hroom] at hkeeps
    rw [heq, hkeeps.encode_eq hsize]
    simp only [Except.map, Written.record, List.take_left]

/-- A text message is always kept, if only in part; a binary one is dropped if it has no room with
its terminator. -/
theorem fitMessage?_eq_none_iff {message : Payload} {start room : Nat} :
    fitMessage? message start room = none ↔
      ∃ data, message = .binary data ∧ room - start < data.length + 1 := by
  cases message with
  | text text => simp [fitMessage?]
  | binary data => simp [fitMessage?]

end Record

namespace Emitter

open Record

/-- A name passes its check exactly if it is short and has no NUL. -/
theorem checkName_eq_ok_iff {name : String} : checkName name = .ok () ↔
    (Utf8.ofString name).length ≤ maxNameLength ∧ 0 ∉ Utf8.ofString name := by
  unfold checkName
  dsimp only
  split_ifs with hbad
  · refine iff_of_false (by simp) ?_
    rintro ⟨hlength, hclean⟩
    exact hbad.elim (Nat.not_lt.mpr hlength) hclean
  · rw [not_or] at hbad
    exact iff_of_true rfl ⟨Nat.le_of_not_lt hbad.1, hbad.2⟩

/-- An emitter is made of a name that passes its check, and it is switched on. -/
theorem new_eq_ok_iff {name : String} {pid : Int32} {emitter : Emitter} :
    new name pid = .ok emitter ↔ checkName name = .ok () ∧ emitter = ⟨name, true, pid⟩ := by
  unfold new
  cases hcheck : checkName name with
  | ok => simp [bind, Except.bind, pure, Except.pure, eq_comm]
  | error fault => simp [bind, Except.bind]

/-- An emitter has the name that it was given, which is short. -/
theorem new_eq_ok {name : String} {pid : Int32} {emitter : Emitter}
    (h : new name pid = .ok emitter) :
    emitter = ⟨name, true, pid⟩ ∧ (Utf8.ofString name).length ≤ maxNameLength := by
  obtain ⟨hcheck, heq⟩ := new_eq_ok_iff.mp h
  exact ⟨heq, (checkName_eq_ok_iff.mp hcheck).1⟩

/-- The fields of the record for an entry. -/
def fields (emitter : Emitter) (entry : Entry) : Fields :=
  ⟨emitter.name, entry.tags, entry.file, entry.message⟩

/-- A binary message has no room in the longest record, behind the other fields as they are kept
there. -/
def Overflows (emitter : Emitter) (entry : Entry) : Prop :=
  ∃ data, entry.message = .binary data ∧
    maxRecordSize < headerSize + (Prefix.fit (emitter.fields entry)
      (maxRecordSize - headerSize)).msgOffset + data.length + 1

/-- Where the longest record fits, there is room for a record under the longest name. -/
theorem minRecordSize_le_of_maxRecordSize_le {size : Nat} (hsize : maxRecordSize ≤ size) :
    minRecordSize maxNameLength ≤ size := by
  have hle : minRecordSize maxNameLength ≤ maxRecordSize := by decide
  omega

variable {emitter : Emitter} {buffer : Bytes} (stamp : Stamp) (entry : Entry)

/-- With a short name, an emitter never fails to write into a buffer that has room for it. -/
theorem exists_encode (hname : (Utf8.ofString emitter.name).length ≤ maxNameLength)
    (hbuffer : minRecordSize maxNameLength ≤ buffer.length) :
    ∃ w, emitter.encode stamp buffer entry = .ok w := by
  unfold minRecordSize headerSize maxNameLength at hbuffer
  unfold maxNameLength at hname
  by_cases henabled : emitter.enabled = true
  · obtain ⟨hsize, -⟩ | ⟨-, -, heq⟩ | ⟨-, f, -, heq⟩ := encode_cases buffer
      (emitter.header stamp entry) (emitter.fields entry)
    · -- The longest name, the header and four terminators take 47 bytes.
      simp only [fields, minRecordSize, headerSize, maxRecordSize] at hsize
      omega
    all_goals exact ⟨_, (if_pos henabled).trans heq⟩
  · exact ⟨_, if_neg henabled⟩

/-- Buffers that hold the longest record get the same one. -/
theorem record_encode_congr {other : Bytes} (hbuffer : maxRecordSize ≤ buffer.length)
    (hother : maxRecordSize ≤ other.length) :
    (emitter.encode stamp buffer entry).map Written.record =
      (emitter.encode stamp other entry).map Written.record := by
  unfold encode
  split_ifs
  · apply Record.record_encode_congr
    rw [Nat.min_eq_right hbuffer, Nat.min_eq_right hother]
  · rfl

/-- A binary message has no room exactly if it does not fit behind the other fields. -/
theorem overflows_iff : emitter.Overflows entry ↔
    fitMessage? entry.message (Prefix.fit (emitter.fields entry)
      (maxRecordSize - headerSize)).msgOffset (maxRecordSize - headerSize) = none := by
  have hroom : 4 ≤ maxRecordSize - headerSize := by decide
  have hlt := Prefix.msgOffset_fit_lt (emitter.fields entry) hroom
  unfold Overflows
  rw [fitMessage?_eq_none_iff]
  unfold maxRecordSize headerSize at hlt ⊢
  refine exists_congr fun data => and_congr_right fun _ => ?_
  omega

/-- Into a buffer that holds the longest record nothing is written exactly if the emitter is
switched off or a binary message has no room. -/
theorem record_encode_eq_nil_iff {w : Written} (hbuffer : maxRecordSize ≤ buffer.length)
    (h : emitter.encode stamp buffer entry = .ok w) :
    w.record = [] ↔ emitter.enabled = false ∨ emitter.Overflows entry := by
  have hroom : roomIn buffer = maxRecordSize - headerSize := by
    rw [roomIn, Nat.min_eq_right hbuffer]
  unfold encode at h
  split_ifs at h with henabled
  · rw [henabled, overflows_iff, ← hroom]
    simp only [Bool.true_eq_false, false_or]
    obtain ⟨-, hrefused⟩ | ⟨-, hnone, hdropped⟩ | ⟨-, f, hkeeps, hwritten⟩ := encode_cases buffer
      (emitter.header stamp entry) (emitter.fields entry)
    · exact absurd (h.symm.trans hrefused) (by simp)
    · have hw : w = ⟨0, _⟩ := Except.ok.inj (h.symm.trans hdropped)
      have hempty : w.record = [] := by rw [hw, Written.record, List.take_zero]
      exact iff_of_true hempty hnone
    · have hw : w = ⟨_, _⟩ := Except.ok.inj (h.symm.trans hwritten)
      have hrecord : w.record = f.bytes (emitter.header stamp entry) := by
        rw [hw, Written.record, List.take_left]
      have hsome := hkeeps.message
      rw [hkeeps.kept] at hsome
      have hne : f.bytes (emitter.header stamp entry) ≠ [] := by
        rw [← List.length_pos_iff, Stored.length_bytes, headerSize]
        omega
      rw [hrecord]
      refine iff_of_false hne ?_
      rw [show entry.message = (emitter.fields entry).message from rfl, hsome]
      exact Option.some_ne_none _
  · have hw : w = ⟨0, buffer⟩ := (Except.ok.inj h).symm
    simp [hw, Written.record, henabled]

end Emitter

end NetSession
