import NetSession.Proofs.Record.InPlace
import NetSession.Proofs.Record.RoundTrip

/-!
# A cut takes no more than it must

What is kept of a text is the longest of its beginnings that has room (`IsLongest`): whole
characters before the first NUL, and with one character more its terminator would stand too late. A
message that was cut ends at most three bytes before the end of the capacity
(`IsLongest.lt_of_cut`), since no character has more than four bytes. `encode_longest` says this of
the four fields of a record, each of which starts behind the terminator of the one before it.
-/

namespace NetSession.Record

open Utf8 (charsWithin untilNul)

/-! ## The longest beginning that has room -/

/-- `kept` is the longest beginning of a text, before its first NUL, that ends between characters
and puts its terminator no later than index `last` if it starts at index `start`. -/
structure IsLongest (text : List Char) (start last : Nat) (kept : Bytes) : Prop where
  /-- It is a beginning that ends between characters. -/
  exists_chars : ∃ chars, chars <+: untilNul text ∧ kept = Utf8.encode chars
  /-- Its terminator stands early enough. -/
  fits : start + kept.length ≤ last
  /-- No beginning whose terminator would stand early enough is longer. -/
  longest : ∀ chars, chars <+: untilNul text → start + (Utf8.encode chars).length ≤ last →
    (Utf8.encode chars).length ≤ kept.length

/-- A field keeps the longest beginning that has room. -/
theorem isLongest_fitText (text : List Char) {start last : Nat} (h : start ≤ last) :
    IsLongest text start last (fitText (Utf8.encode text) start last) := by
  have hlen := length_fitText_le text start last
  constructor
  case exists_chars => exact exists_fitText_encode text start last
  case fits => omega
  case longest =>
    intro chars hchars hfits
    rw [fitText_encode]
    -- A beginning that has room is a beginning of what is kept.
    have hroom : (Utf8.encode chars).length ≤ last - start := by omega
    obtain ⟨rest, hrest⟩ := Utf8.isPrefix_charsWithin hchars hroom
    rw [← hrest, Utf8.encode_append, List.length_append]
    exact Nat.le_add_right _ _

/-- Of a text that was cut so much is kept that less than four bytes of its room are left. -/
theorem IsLongest.lt_of_cut {text : List Char} {start last : Nat} {kept : Bytes}
    (h : IsLongest text start last kept)
    (hcut : kept.length < (Utf8.encode (untilNul text)).length) :
    last < start + kept.length + 4 := by
  obtain ⟨chars, ⟨rest, hrest⟩, rfl⟩ := h.exists_chars
  rw [← hrest, Utf8.encode_append, List.length_append] at hcut
  cases rest with
  | nil =>
    rw [Utf8.encode_nil, List.length_nil] at hcut
    omega
  | cons c rest =>
    -- With the next character it would have been too long.
    obtain ⟨hone, hfour⟩ := Utf8.length_encodeChar c
    have hnext : chars ++ [c] <+: untilNul text := ⟨rest, by rw [List.append_assoc]; exact hrest⟩
    have hlonger : (Utf8.encode (chars ++ [c])).length =
        (Utf8.encode chars).length + (Utf8.encodeChar c).length := by
      rw [Utf8.encode_append, List.length_append, Utf8.encode_cons, Utf8.encode_nil,
        List.append_nil]
    by_contra hle
    have hkept := h.longest _ hnext (by omega)
    omega

/-! ## The fields of a record -/

/-- The fields of a record lie in a buffer one behind the other, as much of each as has room. -/
structure KeepsLongest (fields : Fields) (capacity : Nat) (w : Written) (p : Prefix) : Prop where
  /-- The name starts with the extra block. -/
  name : IsLongest fields.name.toList 0 (min 252 (capacity - 28 - 4)) p.name
  /-- The tags start behind the name's terminator. -/
  tags : IsLongest fields.tags.toList p.tagsOffset (min 253 (capacity - 28 - 3)) p.tags
  /-- The shortened source file starts behind the terminator of the tags. -/
  file : IsLongest fields.shortFile p.fileOffset (min 254 (capacity - 28 - 2)) p.file
  /-- The three lie behind the header's place. -/
  stored : (w.buffer.drop 28).take p.msgOffset = p.toBytes
  /-- The message starts where a byte can say it starts. -/
  msgOffset_le : p.msgOffset ≤ 255
  /-- If there is a record, its header says where the fields start. -/
  offsets : 0 < w.length → Header.byteAt w.buffer 20 = 0 ∧
    (Header.byteAt w.buffer 21).toNat = p.tagsOffset ∧
    (Header.byteAt w.buffer 22).toNat = p.fileOffset ∧
    (Header.byteAt w.buffer 23).toNat = p.msgOffset
  /-- A text message starts behind the terminator of the source file and ends the record; if it was
  cut, at most three bytes of the capacity are left. -/
  text : ∀ text, fields.message = .text text → ∃ message,
    IsLongest text.toList p.msgOffset (capacity - 28 - 1) message ∧
    (w.buffer.drop (28 + p.msgOffset)).take (message.length + 1) = message ++ [0] ∧
    w.length = 28 + p.msgOffset + message.length + 1 ∧
    (message.length < (Utf8.encode (untilNul text.toList)).length → capacity - 3 ≤ w.length)

/-- The fields before the message are kept as far as they have room. -/
theorem Prefix.isLongest_fit (fields : Fields) {room : Nat} (h : 4 ≤ room) :
    IsLongest fields.name.toList 0 (lastForName room) (fit fields room).name ∧
    IsLongest fields.tags.toList (fit fields room).tagsOffset (lastForTags room)
      (fit fields room).tags ∧
    IsLongest fields.shortFile (fit fields room).fileOffset (lastForFile room)
      (fit fields room).file := by
  have htags := tagsOffset_fit_add_le fields h
  have hfile := fileOffset_fit_add_le fields h
  refine ⟨?_, ?_, ?_⟩
  · rw [fit_name]
    exact isLongest_fitText _ (Nat.zero_le _)
  · rw [fit_tags]
    exact isLongest_fitText _ (by omega)
  · rw [fit_file]
    exact isLongest_fitText _ (by omega)

section Writing

variable {buffer : Bytes} {header : Header} {fields : Fields}

/-- If there is no room for the message, the fields before it are kept as far as they have room. -/
theorem keepsLongest_of_fitMessage?_eq_none
    (hsize : minRecordSize (Utf8.ofString fields.name).length ≤ min buffer.length maxRecordSize)
    (hnone : fitMessage? fields.message (Prefix.fit fields (roomIn buffer)).msgOffset
      (roomIn buffer) = none) :
    KeepsLongest fields (min buffer.length maxRecordSize)
      ⟨0, overlay headerSize (Prefix.fit fields (roomIn buffer)).toBytes buffer⟩
      (Prefix.fit fields (roomIn buffer)) := by
  obtain ⟨hroom, hstart⟩ := four_le_roomIn hsize
  obtain ⟨hname, htags, hfile⟩ := Prefix.isLongest_fit fields hroom
  have hinside : headerSize ≤ buffer.length := Nat.le_trans hstart (Nat.min_le_left _ _)
  constructor
  case name => exact hname
  case tags => exact htags
  case file => exact hfile
  case stored =>
    show ((overlay headerSize _ buffer).drop headerSize).take _ = _
    rw [drop_overlay _ hinside, ← Prefix.length_toBytes, List.take_left]
  case msgOffset_le => exact Prefix.msgOffset_fit_le fields hroom
  case offsets => exact fun h => absurd h (Nat.lt_irrefl 0)
  case text =>
    intro text htext
    obtain ⟨data, hdata, -⟩ := fitMessage?_eq_none_iff.mp hnone
    rw [htext] at hdata
    contradiction

/-- Fields that are kept are kept as far as they have room. -/
theorem Stored.Keeps.keepsLongest {f : Stored} (hkeeps : f.Keeps fields (roomIn buffer))
    (hsize : minRecordSize (Utf8.ofString fields.name).length ≤ min buffer.length maxRecordSize) :
    KeepsLongest fields (min buffer.length maxRecordSize)
      ⟨(f.bytes header).length, f.bytes header ++ buffer.drop (f.bytes header).length⟩ f.kept := by
  obtain ⟨hroom, -⟩ := four_le_roomIn hsize
  obtain ⟨hkept, hmessage⟩ := hkeeps
  obtain ⟨hname, htags, hfile⟩ := Prefix.isLongest_fit fields hroom
  have hlt := Prefix.msgOffset_fit_lt fields hroom
  rw [← hkept] at hname htags hfile hlt
  -- What is behind the record matters to no field.
  generalize buffer.drop (f.bytes header).length = rest
  have hheader := Header.length_toBytes (f.header header)
  constructor
  case name => exact hname
  case tags => exact htags
  case file => exact hfile
  case stored =>
    show (((f.bytes header) ++ rest).drop headerSize).take _ = _
    rw [Stored.bytes, List.append_assoc, List.drop_left' hheader, Stored.extra, List.append_assoc,
      List.append_assoc, List.take_left' f.kept.length_toBytes]
  case msgOffset_le => exact f.msgOffset_le
  case offsets =>
    exact fun _ => ⟨rfl, f.toNat_tagsOffset header, f.toNat_fileOffset header,
      f.toNat_msgOffset header⟩
  case text =>
    intro text htext
    rw [htext, fitMessage?] at hmessage
    have hlongest : IsLongest text.toList f.kept.msgOffset (lastForMessage (roomIn buffer))
        f.message := by
      rw [← Option.some.inj hmessage]
      exact isLongest_fitText _ (by rw [lastForMessage]; omega)
    refine ⟨f.message, hlongest, ?_, ?_, fun hcut => ?_⟩
    · exact f.drop_bytes_append header rest
    · show (f.bytes header).length = _
      rw [f.length_bytes, headerSize]
      omega
    · -- A cut leaves room for no further character, which is three bytes at most.
      have hlast := hlongest.lt_of_cut hcut
      show _ ≤ (f.bytes header).length
      rw [lastForMessage, roomIn] at hlast
      rw [f.length_bytes]
      omega

/-- In a buffer that is large enough, every field of a record is the longest beginning of its text
that has room, and starts right behind the terminator of the one before it. -/
theorem encode_longest
    (hsize : minRecordSize (Utf8.ofString fields.name).length ≤ min buffer.length maxRecordSize) :
    ∃ w p, encode buffer header fields = .ok w ∧
      KeepsLongest fields (min buffer.length maxRecordSize) w p := by
  obtain ⟨hlt, -⟩ | ⟨-, hnone, heq⟩ | ⟨-, f, hkeeps, heq⟩ := encode_cases buffer header fields
  · exact absurd hsize (Nat.not_le.mpr hlt)
  · exact ⟨_, _, heq, keepsLongest_of_fitMessage?_eq_none hsize hnone⟩
  · exact ⟨_, _, heq, hkeeps.keepsLongest hsize⟩

end Writing

/-- A message of six bytes that has five bytes of room, so that its last character of three bytes is
cut. -/
theorem encode_longest_cut :
    minRecordSize (Utf8.ofString "n").length ≤ min (List.replicate 49 (0 : UInt8)).length
      maxRecordSize ∧
    ∃ w p, encode (List.replicate 49 0) (.new .info 1 2 3 4)
        ⟨"n", "t,u", "/a/b/c/d/e.rs", .text "aé中"⟩ = .ok w ∧
      KeepsLongest ⟨"n", "t,u", "/a/b/c/d/e.rs", .text "aé中"⟩ (min 49 maxRecordSize) w p ∧
      w.length = 47 := by
  have hsize : minRecordSize (Utf8.ofString "n").length ≤
      min (List.replicate 49 (0 : UInt8)).length maxRecordSize := by decide
  have hlength : (encode (List.replicate 49 0) (.new .info 1 2 3 4)
      ⟨"n", "t,u", "/a/b/c/d/e.rs", .text "aé中"⟩).map Written.length = .ok 47 := rfl
  obtain ⟨w, p, hw, hkept⟩ := @encode_longest (List.replicate 49 0) (.new .info 1 2 3 4)
    ⟨"n", "t,u", "/a/b/c/d/e.rs", .text "aé中"⟩ hsize
  rw [hw] at hlength
  exact ⟨hsize, w, p, hw, hkept, Except.ok.inj hlength⟩

end NetSession.Record
