import NetSession.Proofs.Record.Format
import NetSession.Proofs.Record.Stored

/-!
# Altered extended fields

A message length or flags that were changed on the way no longer describe the record, so that it
counts as one of the base form. There the four extended bytes belong to the extra block, and each
field seems to start four bytes earlier. The name, the tags and the source file can still be read,
but the message now starts before the terminator of the source file and so does not end with the
record. Hence a record with a text message is refused whenever one of the two values was changed
(`parse_altered`).
-/

namespace NetSession.Record

open Header

/-- A record with another message length, the lower byte of which comes first, and other flags. -/
def withExtended (len : UInt16) (flags : UInt8) (record : Bytes) : Bytes :=
  ((record.set 24 len.toNat.toUInt8).set 25 (len.toNat / 256).toUInt8).set 27 flags

/-- Behind a header, the two values are those of another header. -/
theorem withExtended_append (h : Header) (len : UInt16) (flags : UInt8) (rest : Bytes) :
    withExtended len flags (h.toBytes ++ rest) =
      { h with msgLen := some len, flags := flags }.toBytes ++ rest := rfl

namespace Stored

variable (f : Stored) (h : Header) {len : UInt16} {flags : UInt8}

/-- The header with other values of the two fields. -/
def altered (len : UInt16) (flags : UInt8) : Header :=
  { f.header h with msgLen := some len, flags := flags }

/-- The whole record with other values of the two fields. -/
def alteredBytes (len : UInt16) (flags : UInt8) : Bytes :=
  (f.altered h len flags).toBytes ++ f.extra

theorem withExtended_bytes : withExtended len flags (f.bytes h) = f.alteredBytes h len flags := by
  rw [bytes, withExtended_append, alteredBytes, altered]

/-- The two values are in the record where they are altered. -/
theorem withExtended_self :
    withExtended f.message.length.toUInt16 0 (f.bytes h) = f.bytes h := by
  rw [bytes, withExtended_append]
  rfl

/-- In the first version, other values do not describe the record: a message without NULs has one
behind it at its own length only. -/
theorem not_extended_altered (hversion : h.version = 1) (hclean : 0 ∉ f.message)
    (hne : ¬ (len = f.message.length.toUInt16 ∧ flags = 0)) :
    ¬ Extended (f.alteredBytes h len flags) := by
  have hstart : (f.altered h len flags).extraOffset.toNat = headerSize := rfl
  have hoffset : (f.altered h len flags).msgOffset.toNat = f.kept.msgOffset := f.toNat_msgOffset h
  have hmsgLen : (f.altered h len flags).msgLen.getD 0 = len := rfl
  have hfirst : (f.altered h len flags).version = 1 := hversion
  rw [← isExtended_iff, alteredBytes, isExtended_append, describes, hstart, hoffset, hmsgLen,
    hfirst]
  by_cases hflags : flags = 0
  · -- The length is another one.
    have hlen : len.toNat ≠ f.message.length := fun heq => hne
      ⟨UInt16.toNat_inj.mp (heq.trans f.toNat_msgLen.symm), hflags⟩
    have hbefore : ((f.altered h len flags).toBytes ++ f.kept.toBytes).length =
        headerSize + f.kept.msgOffset := by
      rw [List.length_append, length_toBytes, Prefix.length_toBytes]
    have hnul : ((f.altered h len flags).toBytes ++ f.extra)[headerSize + f.kept.msgOffset +
        len.toNat]? ≠ some 0 := by
      rw [extra, List.append_assoc, ← List.append_assoc, List.getElem?_append_right (by omega),
        hbefore, Nat.add_sub_cancel_left, Ne, getElem?_append_zero_iff hclean]
      exact hlen
    simp [hnul]
  · have hset : (f.altered h len flags).flags ≠ 0 := hflags
    simp [currentVersion, hset]

/-- The extra block of the base form: the four extended bytes, and what was the extra block. -/
theorem exists_block_altered (hbase : ¬ Extended (f.alteredBytes h len flags)) :
    ∃ front, front.length = 4 ∧ block (f.alteredBytes h len flags) = front ++ f.extra := by
  have hlen := length_toBytes (f.altered h len flags)
  refine ⟨(f.altered h len flags).toBytes.drop 24, ?_, ?_⟩
  · rw [List.length_drop, hlen, headerSize]
  · rw [block, blockStart, if_neg hbase, alteredBytes, List.drop_append_of_le_length]
    rw [hlen, headerSize]
    omega

/-- Wherever one starts in the extra block of the base form, there is a NUL: its last byte. -/
theorem zero_mem_drop_extra {front : Bytes} {i : Nat} (hi : i < (front ++ f.extra).length) :
    0 ∈ (front ++ f.extra).drop i := by
  have hsplit : front ++ f.extra = (front ++ f.kept.toBytes ++ f.message) ++ [0] := by
    simp only [extra, List.append_assoc]
  rw [hsplit, List.length_append, List.length_singleton] at hi
  rw [hsplit, List.drop_append_of_le_length (Nat.le_of_lt_succ hi)]
  exact List.mem_append_right _ (List.mem_singleton_self 0)

/-- The message of the base form does not end with its first NUL, as it starts before the terminator
of the source file. -/
theorem message_not_last {front text : Bytes} (hfront : front.length = 4)
    (htail : (front ++ f.extra).drop f.kept.msgOffset = text ++ [0]) : 0 ∈ text := by
  obtain ⟨body, hbody⟩ : ∃ body, f.kept.toBytes = body ++ [0] := ⟨_, rfl⟩
  have hplace : f.kept.msgOffset = body.length + 1 := by
    rw [← f.kept.length_toBytes, hbody, List.length_append, List.length_singleton]
  have hsplit : front ++ f.extra = (front ++ body) ++ (0 :: f.message ++ [0]) := by
    simp only [extra, hbody, List.append_assoc, List.cons_append, List.nil_append]
  have hle : f.kept.msgOffset ≤ (front ++ body).length := by
    rw [List.length_append]
    omega
  rw [hsplit, List.drop_append_of_le_length hle, ← List.append_assoc] at htail
  rw [← List.append_cancel_right htail]
  simp

/-- The fields before the message start no later than the message. -/
theorem offset_altered_le {part : Part} (hpart : part ≠ .message) :
    part.offset (f.alteredBytes h len flags) ≤ f.kept.msgOffset := by
  have hoffsets : f.kept.tagsOffset ≤ f.kept.msgOffset ∧ f.kept.fileOffset ≤ f.kept.msgOffset := by
    simp only [Prefix.msgOffset, Prefix.fileOffset]
    omega
  have htags : Part.tags.offset (f.alteredBytes h len flags) = f.kept.tagsOffset :=
    f.toNat_tagsOffset h
  have hfile : Part.file.offset (f.alteredBytes h len flags) = f.kept.fileOffset :=
    f.toNat_fileOffset h
  cases part with
  | name => exact Nat.zero_le _
  | tags => exact htags ▸ hoffsets.1
  | file => exact hfile ▸ hoffsets.2
  | message => exact absurd rfl hpart

/-- In the first version, a record without NULs in its message is refused if one of the two values
was changed: its message seems not to end where the record does. -/
theorem parse_withExtended (hversion : h.version = 1) (hclean : 0 ∉ f.message)
    (hne : ¬ (len = f.message.length.toUInt16 ∧ flags = 0)) :
    parse (withExtended len flags (f.bytes h)) =
      .error (.unterminated (f.header h).msgOffset.toNat) := by
  have hbase := f.not_extended_altered h hversion hclean hne
  obtain ⟨front, hfront, hblock⟩ := f.exists_block_altered h hbase
  have hlen : (front ++ f.extra).length = f.kept.msgOffset + f.message.length + 5 := by
    rw [List.length_append, length_extra]
    omega
  have hoffset : Part.message.offset (f.alteredBytes h len flags) = f.kept.msgOffset :=
    f.toNat_msgOffset h
  have hbegins : Begins (f.alteredBytes h len flags) := by
    refine ⟨?_, ⟨rfl, rfl⟩, ?_⟩
    · rw [alteredBytes, List.length_append, length_toBytes, headerSize]
      omega
    · show h.version ≠ 0
      rw [hversion]
      decide
  -- The first three fields are still in the extra block and end before the message.
  have hbefore (part : Part) (hpart : part ≠ .message) :
      part.Fits (f.alteredBytes h len flags) := by
    have hle : part.offset (f.alteredBytes h len flags) ≤ f.kept.msgOffset :=
      f.offset_altered_le h hpart
    have hin : part.offset (f.alteredBytes h len flags) < (front ++ f.extra).length := by omega
    apply Part.fits_of_ne_message hpart
    · rw [hblock]
      exact hin
    · rw [Part.tail, hblock]
      exact f.zero_mem_drop_extra hin
  -- The changed values lie behind the NUL of the message, so it is not the last byte.
  have hmisfit : ¬ Part.message.Fits (f.alteredBytes h len flags) := by
    rintro (hextended | ⟨-, text, htext, htail⟩)
    · exact hbase hextended
    · rw [Part.tail, hblock, hoffset] at htail
      exact htext (f.message_not_last hfront htail)
  rw [withExtended_bytes, parse_begins_eq_error_iff hbegins]
  refine ⟨.message, ⟨hmisfit, [.name, .tags, .file], [], rfl, fun part hpart => ?_⟩, ?_⟩
  · apply hbefore
    rintro rfl
    simp at hpart
  · rw [Part.fault, hblock, hoffset, f.toNat_msgOffset h, if_neg (by omega)]

end Stored

/-- A record of the first version that was written with a text message is refused whenever its
message length or its flags were changed. -/
theorem parse_altered {buffer : Bytes} {header : Header} {fields : Fields} {text : String}
    {w : Written} (hversion : header.version = 1) (htext : fields.message = .text text)
    (h : encode buffer header fields = .ok w) (hw : 0 < w.length) :
    ∃ r len, parse (w.buffer.take w.length) = .ok r ∧ r.header.msgLen = some len ∧
      r.header.flags = 0 ∧ r.header.extraOffset = 28 ∧
      withExtended len 0 (w.buffer.take w.length) = w.buffer.take w.length ∧
      ∀ len' flags', (len', flags') ≠ (len, 0) →
        parse (withExtended len' flags' (w.buffer.take w.length)) =
          .error (.unterminated r.header.msgOffset.toNat) := by
  obtain ⟨f, -, hkeeps, -, hbytes⟩ := exists_stored h hw
  have hclean : 0 ∉ f.message := by
    have hmessage := hkeeps.message
    rw [htext, fitMessage?] at hmessage
    rw [← Option.some.inj hmessage]
    exact zero_notMem_fitText _ _ _
  have hne : header.version ≠ 0 := by
    rw [hversion]
    decide
  rw [hbytes]
  refine ⟨⟨f.header header, f.extra⟩, f.message.length.toUInt16, f.parse_bytes header hne, rfl, rfl,
    rfl, f.withExtended_self header, fun len' flags' hother => ?_⟩
  apply f.parse_withExtended header hversion hclean
  rintro ⟨rfl, rfl⟩
  exact hother rfl

/-- A message length that is too short by one, and a flag that is set. -/
theorem parse_altered_by_one :
    ∃ w, encode (List.replicate 64 0) (.new .debug 1700000123 10 20 30)
        ⟨"xlog", "a,b", "/p/q/r/s.c", .text "payload"⟩ = .ok w ∧ 0 < w.length ∧
      (∃ r, parse (w.buffer.take w.length) = .ok r ∧ r.header.msgLen = some 7) ∧
      parse (withExtended 6 0 (w.buffer.take w.length)) = .error (.unterminated 17) ∧
      parse (withExtended 7 1 (w.buffer.take w.length)) = .error (.unterminated 17) := by
  obtain ⟨w, hw, hpos, hfields⟩ : ∃ w, encode (List.replicate 64 0)
      (.new .debug 1700000123 10 20 30) ⟨"xlog", "a,b", "/p/q/r/s.c", .text "payload"⟩ = .ok w ∧
      0 < w.length ∧ (parse (w.buffer.take w.length)).map
        (fun r => (r.header.msgLen, r.header.msgOffset.toNat)) = .ok (some 7, 17) :=
    ⟨_, rfl, by decide, by decide +kernel⟩
  obtain ⟨r, len, hr, hlen, -, -, -, hrefused⟩ := parse_altered rfl rfl hw hpos
  rw [hr] at hfields
  obtain ⟨hseven, hoffset⟩ := Prod.mk.inj (Except.ok.inj hfields)
  obtain rfl : len = 7 := Option.some.inj (hlen.symm.trans hseven)
  rw [hoffset] at hrefused
  exact ⟨w, hw, hpos, ⟨r, hr, hlen⟩, hrefused 6 0 (by decide), hrefused 7 1 (by decide)⟩

end NetSession.Record
