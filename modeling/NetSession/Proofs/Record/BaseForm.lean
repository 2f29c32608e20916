import NetSession.Proofs.Record.Format
import NetSession.Proofs.Text.Utf8
import NetSession.Record.Encode

/-!
# Records of the base form

A record of the base form has its fields right behind the base header (`Plain.bytes`), and nothing
marks it as such. Its first four bytes behind the header, which belong to its fields, may be taken
for a message length, a place of the extra block and flags. `Plain.extended_iff` says by the fields
when they are: the fourth byte is zero, and the third one and the length of the first two lead
exactly to the end of the message. `parse_plain_iff` shows that a record is read as what it is in
all other cases, and in no case of this kind.
-/

namespace NetSession.Record

open Header

/-- A record of the base form in the first version: fields without NULs, of which the message starts
where a byte can say it starts. -/
structure Plain where
  /-- The severity. -/
  level : Level
  /-- Seconds since 1970, in universal time. -/
  time : Int32
  /-- The process of the emitter. -/
  pid : Int32
  /-- The thread of the caller. -/
  tid : Int32
  /-- The line in the source file. -/
  line : Int32
  /-- The name, the tags and the source file. -/
  kept : Prefix
  /-- The message. -/
  message : Bytes
  /-- The name has no NUL. -/
  name_clean : 0 ∉ kept.name
  /-- The tags have no NUL. -/
  tags_clean : 0 ∉ kept.tags
  /-- The source file has no NUL. -/
  file_clean : 0 ∉ kept.file
  /-- The message has no NUL. -/
  message_clean : 0 ∉ message
  /-- The message starts where a byte can say it starts. -/
  msgOffset_le : kept.msgOffset ≤ 255

namespace Plain

variable (f : Plain)

/-- The base header. -/
def front : Bytes :=
  [1, 0x4c, 0xaf, f.level.value.toUInt8]
    ++ Word.ofInt32 f.time ++ Word.ofInt32 f.pid ++ Word.ofInt32 f.tid ++ Word.ofInt32 f.line
    ++ [0, f.kept.tagsOffset.toUInt8, f.kept.fileOffset.toUInt8, f.kept.msgOffset.toUInt8]

/-- The fields, each with a NUL behind it. -/
def extra : Bytes := f.kept.toBytes ++ f.message ++ [0]

/-- The whole record. -/
def bytes : Bytes := f.front ++ f.extra

/-- The header that the record has. -/
def header : Header where
  version := 1
  level := f.level
  time := f.time
  pid := f.pid
  tid := f.tid
  line := f.line
  nameOffset := 0
  tagsOffset := f.kept.tagsOffset.toUInt8
  fileOffset := f.kept.fileOffset.toUInt8
  msgOffset := f.kept.msgOffset.toUInt8
  msgLen := none
  extraOffset := 24
  flags := 0

/-- The first bytes of the fields look like a message length, a place of the extra block and flags
that fit the record. -/
def LooksExtended : Prop :=
  byteAt f.extra 3 = 0 ∧ 24 ≤ (byteAt f.extra 2).toNat ∧
    (byteAt f.extra 2).toNat + ((byteAt f.extra 0).toNat + 256 * (byteAt f.extra 1).toNat) =
      24 + f.message.length

/-- What was read is the record: its header in the base form, and its fields. -/
structure ReadAs (r : Record) : Prop where
  /-- The header is that of the record; it has no message length. -/
  header : r.header = f.header
  /-- The name is that of the record. -/
  name : r.field r.header.nameOffset = .ok f.kept.name
  /-- The tags are those of the record. -/
  tags : r.field r.header.tagsOffset = .ok f.kept.tags
  /-- The source file is that of the record. -/
  file : r.field r.header.fileOffset = .ok f.kept.file
  /-- The message is that of the record. -/
  message : r.messageBytes = .ok f.message

/-! ## The bytes of a record -/

theorem length_front : f.front.length = 24 := by
  simp [front, Word.ofInt32]

theorem length_extra : f.extra.length = f.kept.msgOffset + f.message.length + 1 := by
  rw [extra, List.length_append, List.length_append, Prefix.length_toBytes, List.length_singleton]

theorem length_bytes : f.bytes.length = 24 + (f.kept.msgOffset + f.message.length + 1) := by
  rw [bytes, List.length_append, length_front, length_extra]

/-- Three terminators stand before the message. -/
theorem msgOffset_ge : 3 ≤ f.kept.msgOffset := by
  simp only [Prefix.msgOffset, Prefix.fileOffset, Prefix.tagsOffset]
  omega

/-- The message's offset is written exactly. -/
theorem toNat_msgOffset : f.kept.msgOffset.toUInt8.toNat = f.kept.msgOffset :=
  Utf8.toNat_byte (Nat.lt_succ_of_le f.msgOffset_le)

/-- The tags' offset is written exactly. -/
theorem toNat_tagsOffset : f.kept.tagsOffset.toUInt8.toNat = f.kept.tagsOffset := by
  have hle := f.msgOffset_le
  simp only [Prefix.msgOffset, Prefix.fileOffset] at hle
  exact Utf8.toNat_byte (by omega)

/-- The source file's offset is written exactly. -/
theorem toNat_fileOffset : f.kept.fileOffset.toUInt8.toNat = f.kept.fileOffset := by
  have hle := f.msgOffset_le
  simp only [Prefix.msgOffset] at hle
  exact Utf8.toNat_byte (by omega)

/-- A record of the base form begins like a record. -/
theorem begins_bytes : Begins f.bytes := by
  refine ⟨?_, ⟨rfl, rfl⟩, ?_⟩
  · rw [length_bytes]
    omega
  · show (1 : UInt8) ≠ 0
    decide

/-- The bytes behind the base header are those of the fields. -/
theorem byteAt_bytes (i : Nat) : byteAt f.bytes (24 + i) = byteAt f.extra i := by
  rw [byteAt, byteAt, List.getD_eq_getElem?_getD, List.getD_eq_getElem?_getD, bytes,
    List.getElem?_append_right (by rw [length_front]; omega), length_front,
    Nat.add_sub_cancel_left]

/-- From the start of the message on, the only NUL is the last byte. -/
theorem getElem?_bytes_eq_zero_iff (i : Nat) :
    f.bytes[24 + f.kept.msgOffset + i]? = some 0 ↔ i = f.message.length := by
  have hfront : f.bytes = (f.front ++ f.kept.toBytes) ++ (f.message ++ [0]) := by
    simp only [bytes, extra, List.append_assoc]
  have hlen : (f.front ++ f.kept.toBytes).length = 24 + f.kept.msgOffset := by
    rw [List.length_append, length_front, Prefix.length_toBytes]
  rw [hfront, List.getElem?_append_right (by omega), hlen, Nat.add_sub_cancel_left]
  exact getElem?_append_zero_iff f.message_clean i

/-- The extended form is read exactly if the fields look like it. -/
theorem extended_iff : Extended f.bytes ↔ f.LooksExtended := by
  have hlen := f.length_bytes
  have hge := f.msgOffset_ge
  have hversion : byteAt f.bytes 0 = 1 := rfl
  have hoffset : (byteAt f.bytes 23).toNat = f.kept.msgOffset := f.toNat_msgOffset
  have hnul (place length : Nat) (h : 24 ≤ place) :
      f.bytes[place + f.kept.msgOffset + length]? = some 0 ↔
        place + length = 24 + f.message.length := by
    have hindex : place + f.kept.msgOffset + length =
        24 + f.kept.msgOffset + (place - 24 + length) := by omega
    rw [hindex, getElem?_bytes_eq_zero_iff]
    omega
  have hfirst : byteAt f.bytes 24 = byteAt f.extra 0 := f.byteAt_bytes 0
  have hsecond : byteAt f.bytes 25 = byteAt f.extra 1 := f.byteAt_bytes 1
  have hthird : byteAt f.bytes 26 = byteAt f.extra 2 := f.byteAt_bytes 2
  have hfourth : byteAt f.bytes 27 = byteAt f.extra 3 := f.byteAt_bytes 3
  constructor
  · rintro ⟨-, hstart, -, hflags, hterminated⟩
    rw [hoffset, hnul _ _ hstart] at hterminated
    rw [hversion] at hflags
    rw [LooksExtended, ← hfirst, ← hsecond, ← hthird, ← hfourth]
    exact ⟨hflags.resolve_right (by decide), hstart, hterminated⟩
  · rintro ⟨hflags, hstart, hterminated⟩
    rw [← hfourth] at hflags
    rw [← hthird] at hstart
    rw [← hfirst, ← hsecond, ← hthird] at hterminated
    refine ⟨by omega, hstart, by omega, Or.inl hflags, ?_⟩
    rw [hoffset, hnul _ _ hstart]
    exact hterminated

/-! ## Reading a record -/

/-- What does not look like the extended form is taken for the record. -/
theorem view_bytes (h : ¬ f.LooksExtended) : view f.bytes = ⟨f.header, f.extra⟩ := by
  have hbase : ¬ Extended f.bytes := mt f.extended_iff.mp h
  have hfields : readFields f.bytes = f.header := by
    have htime : wordAt f.bytes 4 = f.time := Word.toInt32_ofInt32 f.time
    have hpid : wordAt f.bytes 8 = f.pid := Word.toInt32_ofInt32 f.pid
    have htid : wordAt f.bytes 12 = f.tid := Word.toInt32_ofInt32 f.tid
    have hline : wordAt f.bytes 16 = f.line := Word.toInt32_ofInt32 f.line
    have hlevel : (byteAt f.bytes 3).toInt8 = f.level.value := by
      show f.level.value.toUInt8.toInt8 = f.level.value
      simp
    have hform : isExtended f.bytes = false := by
      rw [← Bool.not_eq_true, isExtended_iff]
      exact hbase
    rw [readFields, htime, hpid, htid, hline, hlevel, hform]
    rfl
  have hstart : f.header.extraOffset.toNat = f.front.length := by
    rw [length_front]
    rfl
  rw [view, hfields, hstart, bytes, List.drop_left]

/-- Taken for what it is, the record gives its fields. -/
theorem readAs_view : f.ReadAs ⟨f.header, f.extra⟩ where
  header := rfl
  name := by
    apply field_eq_ok [] (f.kept.tags ++ 0 :: (f.kept.file ++ 0 :: (f.message ++ [0])))
    · simp [extra, Prefix.toBytes]
    · rfl
    · exact f.name_clean
  tags := by
    apply field_eq_ok (f.kept.name ++ [0]) (f.kept.file ++ 0 :: (f.message ++ [0]))
    · simp [extra, Prefix.toBytes]
    · show f.kept.tagsOffset.toUInt8.toNat = _
      rw [toNat_tagsOffset, List.length_append]
      rfl
    · exact f.tags_clean
  file := by
    apply field_eq_ok (f.kept.name ++ 0 :: f.kept.tags ++ [0]) (f.message ++ [0])
    · simp [extra, Prefix.toBytes]
    · show f.kept.fileOffset.toUInt8.toNat = _
      rw [toNat_fileOffset]
      simp only [Prefix.fileOffset, Prefix.tagsOffset, List.length_append, List.length_cons,
        List.length_nil]
      omega
    · exact f.file_clean
  message := by
    have hfield : (⟨f.header, f.extra⟩ : Record).field f.header.msgOffset = .ok f.message := by
      apply field_eq_ok f.kept.toBytes []
      · rfl
      · show f.kept.msgOffset.toUInt8.toNat = _
        rw [toNat_msgOffset, Prefix.length_toBytes]
      · exact f.message_clean
    -- The message is the only field that must end where the record does.
    have hends : f.header.msgOffset.toNat + f.message.length + 1 = f.extra.length := by
      show f.kept.msgOffset.toUInt8.toNat + _ + 1 = _
      rw [toNat_msgOffset, length_extra]
    show (do
      let message ← (⟨f.header, f.extra⟩ : Record).field f.header.msgOffset
      if f.header.msgOffset.toNat + message.length + 1 = f.extra.length then .ok message
      else .error (.unterminated f.header.msgOffset.toNat)) = _
    rw [hfield]
    show (if _ then _ else _) = _
    rw [if_pos hends]

end Plain

/-- A record of the base form is read as what it is exactly if its fields do not look like the
extended form; otherwise nothing is read of it but a record of the extended form. -/
theorem parse_plain_iff (f : Plain) :
    ((∃ r, parse f.bytes = .ok r ∧ f.ReadAs r) ↔ ¬ f.LooksExtended) ∧
      (f.LooksExtended → ∀ r, parse f.bytes = .ok r → r.header.msgLen.isSome = true) := by
  have hextended (h : f.LooksExtended) (r : Record) (hr : parse f.bytes = .ok r) :
      r.header.msgLen.isSome = true := by
    rw [(wellRead_of_parse hr).msgLen, if_pos (f.extended_iff.mpr h)]
    rfl
  refine ⟨⟨?_, ?_⟩, hextended⟩
  · rintro ⟨r, hr, hreadAs⟩ hlooks
    have hsome := hextended hlooks r hr
    rw [hreadAs.header] at hsome
    cases hsome
  · intro h
    have hreadAs := f.readAs_view
    refine ⟨_, ?_, hreadAs⟩
    rw [parse_eq f.begins_bytes.length_ge f.begins_bytes.marked f.begins_bytes.version,
      f.view_bytes h, checkFields_eq_ok_iff]
    exact ⟨rfl, ⟨_, hreadAs.name⟩, ⟨_, hreadAs.tags⟩, ⟨_, hreadAs.file⟩, ⟨_, hreadAs.message⟩⟩

/-- A short source file's name and a message of the right length look like the extended form: the
message is then looked for near the end of the record, and so is everything else. -/
theorem parse_plain_misread :
    ∃ f : Plain, f.kept = ⟨[], [], [0x61]⟩ ∧ f.message = List.replicate 73 0x78 ∧
      f.bytes.length = 102 ∧ f.LooksExtended ∧
      ∃ r, parse f.bytes = .ok r ∧ r.header.msgLen = some 0 ∧ r.header.extraOffset = 97 ∧
        r.field r.header.nameOffset = .ok [0x78, 0x78, 0x78, 0x78] ∧ r.messageBytes = .ok [] := by
  let f : Plain :=
    { level := .debug
      time := 1700000123
      pid := 10
      tid := 20
      line := 30
      kept := ⟨[], [], [0x61]⟩
      message := List.replicate 73 0x78
      name_clean := by decide
      tags_clean := by decide
      file_clean := by decide
      message_clean := by decide
      msgOffset_le := by decide }
  exact ⟨f, rfl, rfl, rfl, ⟨rfl, by decide, rfl⟩, view f.bytes, by decide +kernel,
    by decide +kernel, by decide +kernel, by decide +kernel, by decide +kernel⟩

/-- A record with a name of four bytes or more is always read as what it is. -/
theorem not_looksExtended_of_name (f : Plain) (h : 4 ≤ f.kept.name.length) :
    ¬ f.LooksExtended := by
  rintro ⟨hzero, -⟩
  have hin : 3 < f.kept.name.length := h
  -- The fourth byte of the fields is one of the name.
  have hget : byteAt f.extra 3 = f.kept.name[3] := by
    have hname : f.extra = f.kept.name ++ (0 :: f.kept.tags ++ 0 :: f.kept.file ++ [0] ++
        f.message ++ [0]) := by
      simp [Plain.extra, Prefix.toBytes]
    rw [byteAt, hname, List.getD_eq_getElem?_getD, List.getElem?_append_left hin,
      List.getElem?_eq_getElem hin]
    rfl
  rw [hget] at hzero
  exact f.name_clean (hzero ▸ List.getElem_mem hin)

end NetSession.Record
