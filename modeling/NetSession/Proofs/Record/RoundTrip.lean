import NetSession.Proofs.Record.Stored
import NetSession.Record.Item

/-!
# Written records read back

`parse_encode`: a record that was written is read again, from the front of the buffer, with the
identity fields of its header, its whole name, and as much of the other texts as was kept, which is
whole characters from their starts (`Reads`). A binary message is read as it was given. If nothing
had to be cut, nothing is missing (`ReadsWhole`).
-/

namespace NetSession.Record

open Utf8 (untilNul charsWithin)

/-- The bytes of a text are text. -/
theorem textOf_encode (text : List Char) :
    textOf (Utf8.encode text) = .ok (String.ofList text) := by
  rw [textOf, Utf8.string?_encode]

/-! ## What is said of a record that was read -/

/-- The bytes of a message before anything is cut. -/
def Payload.bytes : Payload → Bytes
  | .text said => Utf8.ofString said
  | .binary data => data

namespace Fields

/-- The source file as records have it, before anything is cut. -/
def shortFile (fields : Fields) : List Char := Path.shorten fields.file.toList

/-- No text has a NUL. -/
structure Clean (fields : Fields) : Prop where
  /-- The name has none. -/
  name : '\x00' ∉ fields.name.toList
  /-- The tags have none. -/
  tags : '\x00' ∉ fields.tags.toList
  /-- The shortened source file has none. -/
  file : '\x00' ∉ fields.shortFile
  /-- The message has none, if it is a text. -/
  message : ∀ text, fields.message = .text text → '\x00' ∉ text.toList

/-- How many bytes the name, the tags and the shortened source file take with their terminators. -/
def prefixLength (fields : Fields) : Nat :=
  (Utf8.ofString fields.name).length + 1 + ((Utf8.ofString fields.tags).length + 1)
    + ((Utf8.encode fields.shortFile).length + 1)

/-- How many bytes the whole record takes. -/
def recordLength (fields : Fields) : Nat :=
  headerSize + fields.prefixLength + (fields.message.bytes.length + 1)

end Fields

/-- A record says what was to be written, up to the ends of texts that were cut. -/
structure Reads (r : Record) (header : Header) (fields : Fields) : Prop where
  /-- The version is the given one. -/
  version : r.header.version = header.version
  /-- The level is the given one. -/
  level : r.header.level = header.level
  /-- The time is the given one. -/
  time : r.header.time = header.time
  /-- The process is the given one. -/
  pid : r.header.pid = header.pid
  /-- The thread is the given one. -/
  tid : r.header.tid = header.tid
  /-- The line is the given one. -/
  line : r.header.line = header.line
  /-- The header has the message's length. -/
  msgLen : r.header.msgLen.isSome = true
  /-- The extra block starts behind the extended form. -/
  extraOffset : r.header.extraOffset = 28
  /-- No flag is set. -/
  flags : r.header.flags = 0
  /-- The name is the given one up to its first NUL. -/
  name : r.name = .ok (String.ofList (untilNul fields.name.toList))
  /-- The tags are whole characters from the start of the given ones. -/
  tags : ∃ kept, kept <+: untilNul fields.tags.toList ∧ r.tags = .ok (String.ofList kept)
  /-- The source file is whole characters from the start of the shortened one. -/
  file : ∃ kept, kept <+: untilNul fields.shortFile ∧ r.file = .ok (String.ofList kept)
  /-- A text message is whole characters from the start of the given one. -/
  text : ∀ text, fields.message = .text text →
    ∃ kept, kept <+: untilNul text.toList ∧ r.message = .ok (String.ofList kept)
  /-- A binary message is the given one. -/
  binary : ∀ data, fields.message = .binary data → r.messageBytes = .ok data
  /-- The record has an item. -/
  item : ∃ item, r.item = .ok item

/-- A record says all that was to be written. -/
structure ReadsWhole (r : Record) (fields : Fields) : Prop where
  /-- The name is the given one. -/
  name : r.name = .ok fields.name
  /-- The tags are the given ones. -/
  tags : r.tags = .ok fields.tags
  /-- The source file is the shortened one. -/
  file : r.file = .ok (String.ofList fields.shortFile)
  /-- A text message is the given one. -/
  text : ∀ text, fields.message = .text text → r.message = .ok text
  /-- A binary message is the given one. -/
  binary : ∀ data, fields.message = .binary data → r.messageBytes = .ok data

/-! ## What is kept of fields that have room -/

namespace Prefix

variable {fields : Fields} {room : Nat}

/-- A name that has room is kept up to its first NUL. -/
theorem fit_name_of_le (hname : (Utf8.ofString fields.name).length ≤ 252)
    (hroom : (Utf8.ofString fields.name).length + 4 ≤ room) :
    (fit fields room).name = Utf8.encode (untilNul fields.name.toList) := by
  have hle := length_encode_untilNul_le fields.name.toList
  rw [Utf8.ofString] at hname hroom
  rw [fit_name, fitText_of_fits]
  rw [lastForName]
  omega

/-- A name that has room beside the other fields is kept up to its first NUL. -/
theorem fit_name_of_prefixLength_le (hlimit : fields.prefixLength ≤ 255)
    (hroom : fields.prefixLength + 1 ≤ room) :
    (fit fields room).name = Utf8.encode (untilNul fields.name.toList) := by
  rw [Fields.prefixLength] at hlimit hroom
  apply fit_name_of_le <;> omega

/-- Tags that have room are kept up to their first NUL. -/
theorem fit_tags_of_le (hlimit : fields.prefixLength ≤ 255)
    (hroom : fields.prefixLength + 1 ≤ room) :
    (fit fields room).tags = Utf8.encode (untilNul fields.tags.toList) := by
  have hname := length_encode_untilNul_le fields.name.toList
  have htags := length_encode_untilNul_le fields.tags.toList
  have hnameKept := fit_name_of_prefixLength_le hlimit hroom
  simp only [Fields.prefixLength, Utf8.ofString] at hlimit hroom
  rw [fit_tags, fitText_of_fits]
  rw [tagsOffset, hnameKept, lastForTags]
  omega

/-- A source file that has room is kept up to its first NUL. -/
theorem fit_file_of_le (hlimit : fields.prefixLength ≤ 255)
    (hroom : fields.prefixLength + 1 ≤ room) :
    (fit fields room).file = Utf8.encode (untilNul fields.shortFile) := by
  have hname := length_encode_untilNul_le fields.name.toList
  have htags := length_encode_untilNul_le fields.tags.toList
  have hfile := length_encode_untilNul_le fields.shortFile
  have hnameKept := fit_name_of_prefixLength_le hlimit hroom
  have htagsKept := fit_tags_of_le hlimit hroom
  simp only [Fields.prefixLength, Utf8.ofString] at hlimit hroom
  rw [fit_file, ← Fields.shortFile, fitText_of_fits]
  rw [fileOffset, tagsOffset, htagsKept, hnameKept, lastForFile]
  omega

/-- The message of fields that have room starts no later than their lengths say. -/
theorem msgOffset_fit_le_prefixLength (hlimit : fields.prefixLength ≤ 255)
    (hroom : fields.prefixLength + 1 ≤ room) :
    (fit fields room).msgOffset ≤ fields.prefixLength := by
  have hname := length_encode_untilNul_le fields.name.toList
  have htags := length_encode_untilNul_le fields.tags.toList
  have hfile := length_encode_untilNul_le fields.shortFile
  rw [msgOffset, fileOffset, tagsOffset, fit_name_of_prefixLength_le hlimit hroom,
    fit_tags_of_le hlimit hroom, fit_file_of_le hlimit hroom]
  simp only [Fields.prefixLength, Utf8.ofString] at hlimit hroom ⊢
  omega

end Prefix

/-! ## Reading what was stored -/

namespace Stored

variable (f : Stored) (h : Header)

theorem name_view : (⟨f.header h, f.extra⟩ : Record).name = textOf f.kept.name := by
  rw [Record.name, field_name]
  rfl

theorem tags_view : (⟨f.header h, f.extra⟩ : Record).tags = textOf f.kept.tags := by
  rw [Record.tags, field_tags]
  rfl

theorem file_view : (⟨f.header h, f.extra⟩ : Record).file = textOf f.kept.file := by
  rw [Record.file, field_file]
  rfl

theorem message_view : (⟨f.header h, f.extra⟩ : Record).message = textOf f.message := by
  rw [Record.message, messageBytes_view]
  rfl

/-- A record whose name, tags and source file are texts has an item. -/
theorem exists_item {name tags file : String} (hname : textOf f.kept.name = .ok name)
    (htags : textOf f.kept.tags = .ok tags) (hfile : textOf f.kept.file = .ok file) :
    ∃ item, (⟨f.header h, f.extra⟩ : Record).item = .ok item := by
  rw [Record.item, name_view, hname, tags_view, htags, file_view, hfile, messageBytes_view]
  exact ⟨_, rfl⟩

variable {f} {fields : Fields} {room : Nat}

/-- A binary message is not cut: it is kept as it is, or nothing is written. -/
theorem Keeps.messageBytes (hkeeps : f.Keeps fields room) {data : Bytes}
    (hdata : fields.message = .binary data) :
    (⟨f.header h, f.extra⟩ : Record).messageBytes = .ok data := by
  have hmessage := hkeeps.message
  rw [hdata] at hmessage
  rw [f.messageBytes_view, eq_of_fitMessage?_binary hmessage]

/-- The name, the tags and the source file that are kept are whole characters from the starts of the
given ones. -/
theorem Keeps.exists_texts (hkeeps : f.Keeps fields room) :
    ∃ name tags file, name <+: untilNul fields.name.toList ∧ tags <+: untilNul fields.tags.toList ∧
      file <+: untilNul fields.shortFile ∧ f.kept.name = Utf8.encode name ∧
      f.kept.tags = Utf8.encode tags ∧ f.kept.file = Utf8.encode file := by
  rw [hkeeps.kept, Prefix.fit_name, Prefix.fit_tags, Prefix.fit_file]
  obtain ⟨name, hname, hnameKept⟩ := exists_fitText_encode fields.name.toList 0 (lastForName room)
  obtain ⟨tags, htags, htagsKept⟩ := exists_fitText_encode fields.tags.toList
    (Prefix.fit fields room).tagsOffset (lastForTags room)
  obtain ⟨file, hfile, hfileKept⟩ := exists_fitText_encode fields.shortFile
    (Prefix.fit fields room).fileOffset (lastForFile room)
  exact ⟨name, tags, file, hname, htags, hfile, hnameKept, htagsKept, hfileKept⟩

/-- Fields that are kept are read back up to where they were cut. -/
theorem Keeps.reads (hkeeps : f.Keeps fields room)
    (hname : (Utf8.ofString fields.name).length ≤ 252)
    (hroom : (Utf8.ofString fields.name).length + 4 ≤ room) :
    Reads ⟨f.header h, f.extra⟩ h fields := by
  have hnameKept : f.kept.name = Utf8.encode (untilNul fields.name.toList) := by
    rw [hkeeps.kept]
    exact Prefix.fit_name_of_le hname hroom
  obtain ⟨-, tags, file, -, htags, hfile, -, htagsKept, hfileKept⟩ := hkeeps.exists_texts
  constructor
  case name => rw [f.name_view, hnameKept, textOf_encode]
  case tags => exact ⟨tags, htags, by rw [f.tags_view, htagsKept, textOf_encode]⟩
  case file => exact ⟨file, hfile, by rw [f.file_view, hfileKept, textOf_encode]⟩
  case text =>
    intro text htext
    have hmessage := hkeeps.message
    rw [htext, fitMessage?, Utf8.ofString, fitText_encode] at hmessage
    rw [f.message_view, ← Option.some.inj hmessage, textOf_encode]
    exact ⟨_, Utf8.charsWithin_isPrefix _ _, rfl⟩
  case binary => exact fun data hdata => hkeeps.messageBytes h hdata
  case item =>
    apply f.exists_item h
    · rw [hnameKept, textOf_encode]
    · rw [htagsKept, textOf_encode]
    · rw [hfileKept, textOf_encode]
  -- What is left are the fields of the header.
  all_goals rfl

/-- Fields that are kept are read back as a whole, if no text has a NUL and all have room. -/
theorem Keeps.readsWhole (hkeeps : f.Keeps fields room) (hclean : fields.Clean)
    (hlimit : fields.prefixLength ≤ 255)
    (hroom : fields.prefixLength + (fields.message.bytes.length + 1) ≤ room) :
    ReadsWhole ⟨f.header h, f.extra⟩ fields := by
  have hkept := hkeeps.kept
  constructor
  case name =>
    rw [f.name_view, hkept, Prefix.fit_name_of_prefixLength_le hlimit (by omega), textOf_encode,
      Utf8.untilNul_of_notMem hclean.name, String.ofList_toList]
  case tags =>
    rw [f.tags_view, hkept, Prefix.fit_tags_of_le hlimit (by omega), textOf_encode,
      Utf8.untilNul_of_notMem hclean.tags, String.ofList_toList]
  case file =>
    rw [f.file_view, hkept, Prefix.fit_file_of_le hlimit (by omega), textOf_encode,
      Utf8.untilNul_of_notMem hclean.file]
  case text =>
    -- The message starts no later than the lengths of the fields before it say, so it has room.
    intro text htext
    have hoffset : (Prefix.fit fields room).msgOffset ≤ fields.prefixLength :=
      Prefix.msgOffset_fit_le_prefixLength hlimit (by omega)
    have hle := length_encode_untilNul_le text.toList
    have hmessage := hkeeps.message
    rw [htext, Payload.bytes, Utf8.ofString] at hroom
    rw [htext, fitMessage?, Utf8.ofString, hkept, fitText_of_fits (by rw [lastForMessage]; omega)]
      at hmessage
    rw [f.message_view, ← Option.some.inj hmessage, textOf_encode,
      Utf8.untilNul_of_notMem (hclean.message text htext), String.ofList_toList]
  case binary => exact fun data hdata => hkeeps.messageBytes h hdata

end Stored

/-- A record that is written is read again: as it was given, up to the ends of texts that were cut,
and as a whole if no text has a NUL and all of it has room. -/
theorem parse_encode {buffer : Bytes} {header : Header} {fields : Fields} {w : Written}
    (hversion : header.version ≠ 0) (hname : (Utf8.ofString fields.name).length ≤ 252)
    (h : encode buffer header fields = .ok w) (hw : 0 < w.length) :
    ∃ r, parse (w.buffer.take w.length) = .ok r ∧ Reads r header fields ∧
      (fields.Clean → fields.prefixLength ≤ 255 →
        fields.recordLength ≤ min buffer.length maxRecordSize → ReadsWhole r fields) := by
  obtain ⟨f, hsize, hkeeps, -, hbytes⟩ := exists_stored h hw
  refine ⟨⟨f.header header, f.extra⟩, ?_, ?_, ?_⟩
  · rw [hbytes]
    exact f.parse_bytes header hversion
  · apply hkeeps.reads header hname
    rw [minRecordSize, headerSize] at hsize
    rw [roomIn, headerSize]
    omega
  · intro hclean hlimit hfits
    apply hkeeps.readsWhole header hclean hlimit
    rw [Fields.recordLength, headerSize] at hfits
    rw [roomIn, headerSize]
    omega

/-- A message that has to be cut inside its third character. -/
theorem parse_encode_cut :
    ∃ w r, encode (List.replicate 49 0) (.new .info 1 2 3 4)
        ⟨"n", "t,u", "/a/b/c/d/e.rs", .text "aé中"⟩ = .ok w ∧ 0 < w.length ∧
      parse (w.buffer.take w.length) = .ok r ∧
      Reads r (.new .info 1 2 3 4) ⟨"n", "t,u", "/a/b/c/d/e.rs", .text "aé中"⟩ := by
  obtain ⟨w, hw, hpos⟩ : ∃ w, encode (List.replicate 49 0) (.new .info 1 2 3 4)
      ⟨"n", "t,u", "/a/b/c/d/e.rs", .text "aé中"⟩ = .ok w ∧ 0 < w.length := ⟨_, rfl, by decide⟩
  obtain ⟨r, hr, hreads, -⟩ := parse_encode (by decide) (by decide) hw hpos
  exact ⟨w, r, hw, hpos, hr, hreads⟩

end NetSession.Record
