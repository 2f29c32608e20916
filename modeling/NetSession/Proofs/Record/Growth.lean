import NetSession.Proofs.Record.RoundTrip

/-!
# Records with a longer header

A later version may add fields to the header, between the extended form and the extra block. A
reader that does not know them finds the extra block by its place in the header, and everything in
it by the offsets, which count from there. `Growth.grow` makes such a record of one that was
written, with any bytes for the new fields; `parse_grow` shows that it is read as before, but for
the three fields of the header that say so.
-/

namespace NetSession.Record

open Header

/-- What a later version adds to a record. -/
structure Growth where
  /-- The new fields of the header. -/
  inserted : Bytes
  /-- The version. -/
  version : UInt8
  /-- The flags. -/
  flags : UInt8
  /-- A byte can say where the extra block starts behind the new fields. -/
  length_le : inserted.length ≤ 227
  /-- The version exists. -/
  version_ne : version ≠ 0
  /-- The first version has no flags. -/
  flags_eq : flags = 0 ∨ 1 < version

namespace Growth

variable (g : Growth) (h : Header) (rest : Bytes)

/-- Where the extra block starts then. -/
def start : Nat := headerSize + g.inserted.length

/-- A record with the new fields behind its header. -/
def grow (record : Bytes) : Bytes :=
  (((record.take headerSize).set 0 g.version).set 26 g.start.toUInt8).set 27 g.flags
    ++ g.inserted ++ record.drop headerSize

/-- The header of a record that has grown. -/
def header : Header :=
  { h with version := g.version, extraOffset := g.start.toUInt8, flags := g.flags }

/-- The place of the extra block is written exactly. -/
theorem toNat_start : g.start.toUInt8.toNat = g.start := by
  have hle := g.length_le
  apply Utf8.toNat_byte
  unfold start headerSize
  omega

/-- A record grows by a change of its header and by the new bytes behind it. -/
theorem grow_append : g.grow (h.toBytes ++ rest) =
    (g.header h).toBytes ++ (g.inserted ++ rest) := by
  have hlen := length_toBytes h
  have hset : ((h.toBytes.set 0 g.version).set 26 g.start.toUInt8).set 27 g.flags =
      (g.header h).toBytes := rfl
  unfold grow
  rw [List.take_left' hlen, List.drop_left' hlen, hset, List.append_assoc]

end Growth

/-- The same is read of both records: their fields can be read, and they are alike. -/
structure ReadsAlike (r s : Record) : Prop where
  /-- The names are the same text. -/
  name : ∃ text, r.name = .ok text ∧ s.name = .ok text
  /-- The tags are the same text. -/
  tags : ∃ text, r.tags = .ok text ∧ s.tags = .ok text
  /-- The source files are the same text. -/
  file : ∃ text, r.file = .ok text ∧ s.file = .ok text
  /-- The messages are the same bytes. -/
  message : ∃ bytes, r.messageBytes = .ok bytes ∧ s.messageBytes = .ok bytes

namespace Stored

variable (f : Stored) (h : Header) (g : Growth)

/-- A record that has grown is its header and its extra block, with the new bytes between them. -/
theorem grow_bytes : g.grow (f.bytes h) =
    (g.header (f.header h)).toBytes ++ (g.inserted ++ f.extra) := by
  rw [bytes, g.grow_append]

/-- A record that has grown is read in the extended form. -/
theorem isExtended_grow : isExtended (g.grow (f.bytes h)) = true := by
  have hbefore : ((g.header (f.header h)).toBytes ++ g.inserted).length = g.start := by
    rw [List.length_append, length_toBytes, Growth.start]
  -- Everything behind the header is moved alike, so the terminator is where it is expected.
  have hlast := f.getElem?_append_extra hbefore
  have hstart : (g.header (f.header h)).extraOffset.toNat = g.start := g.toNat_start
  have hoffset : (g.header (f.header h)).msgOffset.toNat = f.kept.msgOffset :=
    f.toNat_msgOffset h
  have hmsgLen : ((g.header (f.header h)).msgLen.getD 0).toNat = f.message.length :=
    f.toNat_msgLen
  have hflags : (decide (currentVersion < g.version) || g.flags == 0) = true := by
    rcases g.flags_eq with hzero | hlater
    · simp [hzero]
    · simp [currentVersion, hlater]
  have hinside : baseHeaderSize ≤ g.start ∧
      g.start ≤ ((g.header (f.header h)).toBytes ++ (g.inserted ++ f.extra)).length := by
    rw [← List.append_assoc, List.length_append, hbefore, Growth.start, baseHeaderSize, headerSize]
    omega
  rw [List.append_assoc] at hlast
  rw [grow_bytes, isExtended_append, describes, hstart, hoffset, hmsgLen, hlast,
    decide_eq_true hinside]
  simpa [Growth.header] using hflags

/-- What is read of a record that has grown is its new header and its old extra block. -/
theorem view_grow : view (g.grow (f.bytes h)) = ⟨g.header (f.header h), f.extra⟩ := by
  have hextended := f.isExtended_grow h g
  rw [grow_bytes] at hextended ⊢
  have hfields : readFields ((g.header (f.header h)).toBytes ++ (g.inserted ++ f.extra)) =
      g.header (f.header h) := by
    rw [readFields_append, hextended]
    rfl
  have hstart : (g.header (f.header h)).extraOffset.toNat =
      ((g.header (f.header h)).toBytes ++ g.inserted).length := by
    rw [List.length_append, length_toBytes]
    exact g.toNat_start
  rw [view, hfields, hstart, ← List.append_assoc, List.drop_left]

/-- A record that has grown is read. -/
theorem parse_grow_bytes :
    parse (g.grow (f.bytes h)) = .ok ⟨g.header (f.header h), f.extra⟩ := by
  have hview := f.view_grow h g
  rw [grow_bytes] at hview ⊢
  have hlen : baseHeaderSize ≤
      ((g.header (f.header h)).toBytes ++ (g.inserted ++ f.extra)).length := by
    rw [List.length_append, length_toBytes, baseHeaderSize, headerSize]
    omega
  rw [parse_eq hlen ⟨rfl, rfl⟩ g.version_ne, hview, checkFields_eq_ok_iff]
  -- The fields are found by their offsets in the extra block, none of which has changed.
  exact ⟨rfl, ⟨_, f.field_name h⟩, ⟨_, f.field_tags h⟩, ⟨_, f.field_file h⟩,
    ⟨_, f.messageBytes_view h⟩⟩

/-- Of texts that were kept, the same is read when the record has grown. -/
theorem Keeps.readsAlike_grow {f : Stored} {fields : Fields} {room : Nat}
    (hkeeps : f.Keeps fields room) :
    ReadsAlike ⟨g.header (f.header h), f.extra⟩ ⟨f.header h, f.extra⟩ := by
  obtain ⟨name, tags, file, -, -, -, hname, htags, hfile⟩ := hkeeps.exists_texts
  have hnameRead := f.name_view h
  have htagsRead := f.tags_view h
  have hfileRead := f.file_view h
  rw [hname, textOf_encode] at hnameRead
  rw [htags, textOf_encode] at htagsRead
  rw [hfile, textOf_encode] at hfileRead
  exact ⟨⟨_, hnameRead, hnameRead⟩, ⟨_, htagsRead, htagsRead⟩, ⟨_, hfileRead, hfileRead⟩,
    ⟨_, f.messageBytes_view h, f.messageBytes_view h⟩⟩

end Stored

/-- A record that was written and has grown is read: with its new version, its new flags and the new
place of its extra block, and otherwise as it is read before. -/
theorem parse_grow {buffer : Bytes} {header : Header} {fields : Fields} {w : Written}
    (h : encode buffer header fields = .ok w) (hw : 0 < w.length) (g : Growth) :
    ∃ r, parse (g.grow (w.buffer.take w.length)) = .ok r ∧
      r.header = { (view (w.buffer.take w.length)).header with
        version := g.version, flags := g.flags, extraOffset := g.start.toUInt8 } ∧
      r.header.extraOffset.toNat = 28 + g.inserted.length ∧
      ReadsAlike r (view (w.buffer.take w.length)) ∧
      (header.version ≠ 0 →
        parse (w.buffer.take w.length) = .ok (view (w.buffer.take w.length))) := by
  obtain ⟨f, -, hkeeps, -, hbytes⟩ := exists_stored h hw
  rw [hbytes, f.view_bytes]
  have hstart : (g.header (f.header header)).extraOffset.toNat = 28 + g.inserted.length :=
    g.toNat_start
  exact ⟨⟨g.header (f.header header), f.extra⟩, f.parse_grow_bytes header g, rfl, hstart,
    hkeeps.readsAlike_grow header g, f.parse_bytes header⟩

/-- A record of the first version read as one of the third, with a flag and three more bytes of
header, two of which look like ends of fields. -/
theorem parse_grow_three :
    ∃ w r, encode (List.replicate 64 0) (.new .info 1 2 3 4)
        ⟨"n", "t", "/a/b.rs", .binary [0, 7, 0]⟩ = .ok w ∧ 0 < w.length ∧
      parse (Growth.grow ⟨[0, 9, 0], 3, 128, by decide, by decide, by decide⟩
        (w.buffer.take w.length)) = .ok r ∧ r.header.version = 3 ∧ r.header.flags = 128 ∧
      r.header.extraOffset.toNat = 31 ∧ r.messageBytes = .ok [0, 7, 0] := by
  obtain ⟨w, hw, hpos, hbefore⟩ : ∃ w, encode (List.replicate 64 0) (.new .info 1 2 3 4)
      ⟨"n", "t", "/a/b.rs", .binary [0, 7, 0]⟩ = .ok w ∧ 0 < w.length ∧
      (view (w.buffer.take w.length)).messageBytes = .ok [0, 7, 0] :=
    ⟨_, rfl, by decide, by decide +kernel⟩
  obtain ⟨r, hr, hheader, hstart, halike, -⟩ :=
    parse_grow hw hpos ⟨[0, 9, 0], 3, 128, by decide, by decide, by decide⟩
  obtain ⟨message, hread, hsame⟩ := halike.message
  rw [hbefore] at hsame
  rw [← Except.ok.inj hsame] at hread
  exact ⟨w, r, hw, hpos, hr, by rw [hheader], by rw [hheader], hstart, hread⟩

end NetSession.Record
