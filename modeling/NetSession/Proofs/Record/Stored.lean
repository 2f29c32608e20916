import NetSession.Proofs.Record.Fit
import NetSession.Proofs.Record.HeaderBytes
import NetSession.Proofs.Record.Places

/-!
# What a written record holds

Whenever a record is written, its bytes are a header followed by four fields, each with a NUL behind
it, such that every offset and the message's length fit the header (`Stored`). All that is said
about written records is said about `Stored.bytes`: `Stored.parse_bytes` shows that they are read in
the extended form, with those very fields.

Writing has three outcomes (`encode_cases`): the buffer is refused, a binary message is dropped, or
such a record is laid over the front of the buffer (`exists_stored`).
-/

namespace NetSession.Record

open Header

/-! ## Stored fields -/

/-- The fields of a record as they are stored: the first three hold no NUL and leave the message's
offset below 256, and a short word holds the message's length. -/
structure Stored where
  /-- The name, the tags and the source file. -/
  kept : Prefix
  /-- The message. -/
  message : Bytes
  /-- The name has no NUL. -/
  name_clean : 0 ∉ kept.name
  /-- The tags have no NUL. -/
  tags_clean : 0 ∉ kept.tags
  /-- The source file has no NUL. -/
  file_clean : 0 ∉ kept.file
  /-- The message starts where a byte can say it starts. -/
  msgOffset_le : kept.msgOffset ≤ 255
  /-- The message is no longer than a short word can say. -/
  length_message_lt : message.length < 65536

namespace Stored

variable (f : Stored) (h : Header)

/-- The extra block. -/
def extra : Bytes := f.kept.toBytes ++ f.message ++ [0]

/-- The header of the record. -/
def header : Header := h.place f.kept f.message.length

/-- The whole record. -/
def bytes : Bytes := (f.header h).toBytes ++ f.extra

theorem length_extra : f.extra.length = f.kept.msgOffset + f.message.length + 1 := by
  rw [extra, List.length_append, List.length_append, Prefix.length_toBytes, List.length_singleton]

theorem length_bytes :
    (f.bytes h).length = headerSize + (f.kept.msgOffset + f.message.length + 1) := by
  rw [bytes, List.length_append, length_toBytes, length_extra]

/-- The tags' offset is written exactly. -/
theorem toNat_tagsOffset : (f.header h).tagsOffset.toNat = f.kept.tagsOffset := by
  have hle := f.msgOffset_le
  simp only [Prefix.msgOffset, Prefix.fileOffset] at hle
  exact Utf8.toNat_byte (by omega)

/-- The source file's offset is written exactly. -/
theorem toNat_fileOffset : (f.header h).fileOffset.toNat = f.kept.fileOffset := by
  have hle := f.msgOffset_le
  simp only [Prefix.msgOffset] at hle
  exact Utf8.toNat_byte (by omega)

/-- The message's offset is written exactly. -/
theorem toNat_msgOffset : (f.header h).msgOffset.toNat = f.kept.msgOffset :=
  Utf8.toNat_byte (Nat.lt_succ_of_le f.msgOffset_le)

/-- The message's length is written exactly. -/
theorem toNat_msgLen : f.message.length.toUInt16.toNat = f.message.length :=
  UInt16.toNat_ofNat_of_lt' f.length_message_lt

/-- The extra block starts right behind the header. -/
theorem toNat_extraOffset : (f.header h).extraOffset.toNat = headerSize := rfl

/-- The last byte of the extra block is the message's terminator. -/
theorem getElem?_extra_last : f.extra[f.kept.msgOffset + f.message.length]? = some 0 := by
  have hlast : f.kept.msgOffset + f.message.length = (f.kept.toBytes ++ f.message).length := by
    rw [List.length_append, Prefix.length_toBytes]
  rw [extra, hlast, List.getElem?_append_right (Nat.le_refl _), Nat.sub_self]
  rfl

/-- Behind as many bytes as the extra block is to start at, the terminator stands where it is looked
for. -/
theorem getElem?_append_extra {before : Bytes} {start : Nat} (hbefore : before.length = start) :
    (before ++ f.extra)[start + f.kept.msgOffset + f.message.length]? = some 0 := by
  rw [List.getElem?_append_right (by omega), hbefore, Nat.add_assoc, Nat.add_sub_cancel_left,
    getElem?_extra_last]

/-- A record is read in the extended form. -/
theorem isExtended_bytes : isExtended (f.bytes h) = true := by
  -- The message's terminator is where the offset and the length in the header say it is.
  have hlen := f.length_bytes h
  have hlast := f.getElem?_append_extra (length_toBytes (f.header h))
  have hmsgLen : ((f.header h).msgLen.getD 0).toNat = f.message.length := f.toNat_msgLen
  have hflags : (f.header h).flags = 0 := rfl
  have hinside : baseHeaderSize ≤ headerSize ∧ headerSize ≤ (f.bytes h).length := by
    rw [hlen, baseHeaderSize, headerSize]
    omega
  rw [bytes] at hinside ⊢
  rw [isExtended_append, describes, toNat_extraOffset, toNat_msgOffset, hmsgLen, hflags, hlast,
    decide_eq_true hinside]
  simp

/-- What is read of a record is its header and its extra block. -/
theorem view_bytes : view (f.bytes h) = ⟨f.header h, f.extra⟩ := by
  have hfields : readFields (f.bytes h) = f.header h := by
    have hext := f.isExtended_bytes h
    rw [bytes] at hext ⊢
    rw [readFields_append, hext]
    rfl
  rw [view, hfields, toNat_extraOffset, bytes, ← length_toBytes (f.header h), List.drop_left]

/-- The name is read back. -/
theorem field_name : (⟨f.header h, f.extra⟩ : Record).field (f.header h).nameOffset =
    .ok f.kept.name := by
  apply field_eq_ok [] (f.kept.tags ++ 0 :: (f.kept.file ++ 0 :: (f.message ++ [0])))
  · simp [extra, Prefix.toBytes]
  · rfl
  · exact f.name_clean

/-- The tags are read back. -/
theorem field_tags : (⟨f.header h, f.extra⟩ : Record).field (f.header h).tagsOffset =
    .ok f.kept.tags := by
  apply field_eq_ok (f.kept.name ++ [0]) (f.kept.file ++ 0 :: (f.message ++ [0]))
  · simp [extra, Prefix.toBytes]
  · rw [toNat_tagsOffset, List.length_append]
    rfl
  · exact f.tags_clean

/-- The source file is read back. -/
theorem field_file : (⟨f.header h, f.extra⟩ : Record).field (f.header h).fileOffset =
    .ok f.kept.file := by
  apply field_eq_ok (f.kept.name ++ 0 :: f.kept.tags ++ [0]) (f.message ++ [0])
  · simp [extra, Prefix.toBytes]
  · rw [toNat_fileOffset]
    simp only [Prefix.fileOffset, Prefix.tagsOffset, List.length_append, List.length_cons,
      List.length_nil]
    omega
  · exact f.file_clean

/-- The message is read back, whatever bytes it has. -/
theorem messageBytes_view : (⟨f.header h, f.extra⟩ : Record).messageBytes = .ok f.message := by
  apply messageBytes_eq_ok f.kept.toBytes []
  · rfl
  · rfl
  · rw [toNat_msgOffset, Prefix.length_toBytes]
  · exact f.toNat_msgLen

/-- A record of an existing version is read as what was stored. -/
theorem parse_bytes (hv : h.version ≠ 0) : parse (f.bytes h) = .ok ⟨f.header h, f.extra⟩ := by
  have hlen : baseHeaderSize ≤ (f.bytes h).length := by
    rw [length_bytes, baseHeaderSize, headerSize]
    omega
  rw [parse_eq hlen ⟨rfl, rfl⟩ hv, view_bytes, checkFields_eq_ok_iff]
  exact ⟨rfl, ⟨_, f.field_name h⟩, ⟨_, f.field_tags h⟩, ⟨_, f.field_file h⟩,
    ⟨_, f.messageBytes_view h⟩⟩

end Stored

/-! ## Writing stores fields -/

/-- The room that a buffer has for the extra block of a record. -/
def roomIn (buffer : Bytes) : Nat := min buffer.length maxRecordSize - headerSize

/-- What is kept of a message leaves room for its terminator. -/
theorem length_fitMessage_lt {payload : Payload} {start room : Nat} {message : Bytes}
    (hstart : start < room) (h : fitMessage? payload start room = some message) :
    start + message.length < room := by
  cases payload with
  | text text =>
    have hle := length_fitText_le text.toList start (lastForMessage room)
    rw [← Option.some.inj h, Utf8.ofString]
    rw [lastForMessage] at hle ⊢
    omega
  | binary data =>
    simp only [fitMessage?] at h
    split_ifs at h with hfits
    rw [← Option.some.inj h]
    omega

/-- A binary message is kept as it is, if it is kept. -/
theorem eq_of_fitMessage?_binary {data message : Bytes} {start room : Nat}
    (h : fitMessage? (.binary data) start room = some message) : data = message := by
  simp only [fitMessage?] at h
  split_ifs at h
  exact Option.some.inj h

/-- What is stored is what fits of some fields into so much room. -/
structure Stored.Keeps (f : Stored) (fields : Fields) (room : Nat) : Prop where
  /-- The name, the tags and the source file are kept as they fit. -/
  kept : f.kept = Prefix.fit fields room
  /-- The message is kept as it fits behind them. -/
  message : fitMessage? fields.message f.kept.msgOffset room = some f.message

/-- The message that fits makes stored fields, together with the fields before it as they fit. -/
theorem Stored.exists_keeps {fields : Fields} {room : Nat} {message : Bytes} (hroom : 4 ≤ room)
    (hmax : room ≤ maxRecordSize)
    (hmessage : fitMessage? fields.message (Prefix.fit fields room).msgOffset room =
      some message) :
    ∃ f : Stored, f.Keeps fields room := by
  have hlen := length_fitMessage_lt (Prefix.msgOffset_fit_lt fields hroom) hmessage
  rw [maxRecordSize] at hmax
  -- The prefix and the message as they fit have all that is asked of stored fields.
  let f : Stored :=
    { kept := Prefix.fit fields room
      message
      name_clean := Prefix.zero_notMem_name_fit fields
      tags_clean := Prefix.zero_notMem_tags_fit fields
      file_clean := Prefix.zero_notMem_file_fit fields
      msgOffset_le := Prefix.msgOffset_fit_le fields hroom
      length_message_lt := by omega }
  exact ⟨f, rfl, hmessage⟩

section Writing

variable {buffer : Bytes} {header : Header} {fields : Fields}

/-- A buffer that is too short for the name and the terminators is refused. -/
theorem encode_of_lt
    (hsize : min buffer.length maxRecordSize <
      minRecordSize (Utf8.ofString fields.name).length) :
    encode buffer header fields = .error (.bufferTooSmall
      (minRecordSize (Utf8.ofString fields.name).length) (min buffer.length maxRecordSize)) := by
  unfold encode
  exact if_pos hsize

/-- Without room for a binary message, only the fields before it are left in the buffer. -/
theorem encode_of_fitMessage?_eq_none
    (hsize : minRecordSize (Utf8.ofString fields.name).length ≤ min buffer.length maxRecordSize)
    (hmessage : fitMessage? fields.message (Prefix.fit fields (roomIn buffer)).msgOffset
      (roomIn buffer) = none) :
    encode buffer header fields =
      .ok ⟨0, overlay headerSize (Prefix.fit fields (roomIn buffer)).toBytes buffer⟩ := by
  unfold roomIn at hmessage ⊢
  unfold encode
  dsimp only
  rw [if_neg (Nat.not_lt.mpr hsize), hmessage]

/-- What is kept of the fields is laid over the front of the buffer, behind its header. -/
theorem Stored.Keeps.encode_eq {f : Stored} (hkeeps : f.Keeps fields (roomIn buffer))
    (hsize : minRecordSize (Utf8.ofString fields.name).length ≤
      min buffer.length maxRecordSize) :
    encode buffer header fields = .ok ⟨(f.bytes header).length,
      f.bytes header ++ buffer.drop (f.bytes header).length⟩ := by
  obtain ⟨hkept, hmessage⟩ := hkeeps
  have hbytes : (header.place f.kept f.message.length).toBytes ++ f.kept.toBytes ++ f.message ++
      [0] = f.bytes header := by
    simp only [Stored.bytes, Stored.extra, Stored.header, List.append_assoc]
  rw [hkept] at hbytes hmessage
  unfold roomIn at hbytes hmessage
  unfold encode
  dsimp only
  rw [if_neg (Nat.not_lt.mpr hsize), hmessage]
  dsimp only
  rw [hbytes, overlay, List.take_zero, List.nil_append, Nat.zero_add]

/-- Writing a record is refused, or drops the message, or lays the fields as they fit over the front
of the buffer. -/
theorem encode_cases (buffer : Bytes) (header : Header) (fields : Fields) :
    (min buffer.length maxRecordSize < minRecordSize (Utf8.ofString fields.name).length ∧
      encode buffer header fields = .error (.bufferTooSmall
        (minRecordSize (Utf8.ofString fields.name).length) (min buffer.length maxRecordSize))) ∨
    (minRecordSize (Utf8.ofString fields.name).length ≤ min buffer.length maxRecordSize ∧
      fitMessage? fields.message (Prefix.fit fields (roomIn buffer)).msgOffset (roomIn buffer)
        = none ∧
      encode buffer header fields =
        .ok ⟨0, overlay headerSize (Prefix.fit fields (roomIn buffer)).toBytes buffer⟩) ∨
    (minRecordSize (Utf8.ofString fields.name).length ≤ min buffer.length maxRecordSize ∧
      ∃ f : Stored, f.Keeps fields (roomIn buffer) ∧
        encode buffer header fields = .ok ⟨(f.bytes header).length,
          f.bytes header ++ buffer.drop (f.bytes header).length⟩) := by
  rcases Nat.lt_or_ge (min buffer.length maxRecordSize)
    (minRecordSize (Utf8.ofString fields.name).length) with hsize | hsize
  · exact Or.inl ⟨hsize, encode_of_lt hsize⟩
  -- The smallest record has a header, the three terminators of the prefix, and one of the message.
  have hroom : 4 ≤ roomIn buffer := by
    rw [minRecordSize, headerSize] at hsize
    rw [roomIn, headerSize]
    omega
  have hmax : roomIn buffer ≤ maxRecordSize :=
    Nat.le_trans (Nat.sub_le _ _) (Nat.min_le_right _ _)
  obtain hnone | ⟨message, hsome⟩ := Option.eq_none_or_eq_some
    (fitMessage? fields.message (Prefix.fit fields (roomIn buffer)).msgOffset (roomIn buffer))
  · exact Or.inr (Or.inl ⟨hsize, hnone, encode_of_fitMessage?_eq_none hsize hnone⟩)
  · obtain ⟨f, hkeeps⟩ := Stored.exists_keeps hroom hmax hsome
    exact Or.inr (Or.inr ⟨hsize, f, hkeeps, hkeeps.encode_eq hsize⟩)

/-- Whenever a record is written, the front of the buffer holds the fields as they fit. -/
theorem exists_stored {w : Written} (h : encode buffer header fields = .ok w)
    (hw : 0 < w.length) :
    ∃ f : Stored, minRecordSize (Utf8.ofString fields.name).length ≤
        min buffer.length maxRecordSize ∧ f.Keeps fields (roomIn buffer) ∧
      w.length = (f.bytes header).length ∧ w.buffer.take w.length = f.bytes header := by
  obtain ⟨-, hrefused⟩ | ⟨-, -, hdropped⟩ | ⟨hsize, f, hkeeps, hwritten⟩ :=
    encode_cases buffer header fields
  · rw [hrefused] at h
    contradiction
  · have hnone : w = ⟨0, _⟩ := Except.ok.inj (h.symm.trans hdropped)
    rw [hnone] at hw
    exact absurd hw (Nat.lt_irrefl 0)
  · refine ⟨f, hsize, hkeeps, ?_⟩
    have hall : w = ⟨_, _⟩ := Except.ok.inj (h.symm.trans hwritten)
    rw [hall]
    exact ⟨rfl, List.take_left⟩

end Writing

end NetSession.Record
