import NetSession.Proofs.Record.RoundTrip
import NetSession.Proofs.Record.ShortPath

/-!
# Records written again

What was read of a record can be written again, with its message as bytes. Nothing is cut a second
time: the fields were kept in no more room than the record takes, so they fit into any buffer that
holds it (`Prefix.fit_texts`). Only the path of the source file goes through shortening once more,
which leaves it alone exactly if it does not begin with a separator. So the same bytes come out in
these cases and in no others (`encode_parsed_iff`).
-/

namespace NetSession.Record

open Utf8 (untilNul)

/-! ## Fields that have room -/

/-- A text without NULs that has room is kept whole. -/
theorem fitText_of_clean {text : List Char} {start last : Nat} (hclean : 0 ∉ Utf8.encode text)
    (hle : start + (Utf8.encode text).length ≤ last) :
    fitText (Utf8.encode text) start last = Utf8.encode text := by
  have hkept : beforeNul (Utf8.encode text) = Utf8.encode text :=
    List.takeWhile_eq_self_iff.mpr fun x hx => by simpa using fun e : x = 0 => hclean (e ▸ hx)
  unfold fitText
  dsimp only
  rw [hkept, if_pos (by omega)]

/-- Texts without NULs that leave the message's offset below 256 and inside the room are kept
whole. -/
theorem Prefix.fit_texts {fields : Fields} {p : Prefix} {room : Nat}
    (hname : p.name = Utf8.ofString fields.name) (htags : p.tags = Utf8.ofString fields.tags)
    (hfile : p.file = Utf8.encode (Path.shorten fields.file.toList)) (hnameClean : 0 ∉ p.name)
    (htagsClean : 0 ∉ p.tags) (hfileClean : 0 ∉ p.file) (hle : p.msgOffset ≤ 255)
    (hlt : p.msgOffset < room) : fit fields room = p := by
  unfold Utf8.ofString at hname htags
  simp only [msgOffset, fileOffset, tagsOffset] at hle hlt
  rw [hname] at hnameClean hle hlt
  rw [htags] at htagsClean hle hlt
  rw [hfile] at hfileClean hle hlt
  have hnameKept : (fit fields room).name = Utf8.encode fields.name.toList := by
    rw [fit_name, fitText_of_clean hnameClean]
    unfold lastForName
    omega
  have htagsKept : (fit fields room).tags = Utf8.encode fields.tags.toList := by
    rw [fit_tags, fitText_of_clean htagsClean]
    unfold tagsOffset lastForTags
    rw [hnameKept]
    omega
  have hfileKept : (fit fields room).file = Utf8.encode (Path.shorten fields.file.toList) := by
    rw [fit_file, fitText_of_clean hfileClean]
    unfold fileOffset tagsOffset lastForFile
    rw [hnameKept, htagsKept]
    omega
  rw [← hname] at hnameKept
  rw [← htags] at htagsKept
  rw [← hfile] at hfileKept
  generalize fit fields room = q at hnameKept htagsKept hfileKept
  obtain ⟨qname, qtags, qfile⟩ := q
  rw [Prefix.mk.injEq]
  exact ⟨hnameKept, htagsKept, hfileKept⟩

/-! ## Writing what was stored -/

namespace Stored

variable {f : Stored} (h : Header) {fields : Fields} {room : Nat}

/-- The header of a record is not changed when it is written again. -/
theorem bytes_header : f.bytes (f.header h) = f.bytes h := rfl

/-- A record takes no more than the header and the room that its fields were fitted into. -/
theorem Keeps.length_bytes_le (hkeeps : f.Keeps fields room) (hroom : 4 ≤ room) :
    (f.bytes h).length ≤ headerSize + room := by
  have hlt : f.kept.msgOffset < room := by
    rw [hkeeps.kept]
    exact Prefix.msgOffset_fit_lt fields hroom
  have hmessage := length_fitMessage_lt hlt hkeeps.message
  rw [length_bytes]
  omega

/-- A source file that was shortened once has at most two separators, also after it was cut. -/
theorem countP_isSeparator_le {file : List Char} (hfile : file <+: untilNul fields.shortFile) :
    file.countP Path.isSeparator ≤ 2 := by
  have hsub : file.Sublist fields.shortFile :=
    hfile.sublist.trans (List.takeWhile_prefix _).sublist
  calc file.countP Path.isSeparator
      ≤ fields.shortFile.countP Path.isSeparator := hsub.countP_le
    _ ≤ 2 := Path.countP_shorten_le _

variable {name tags file : List Char} {relay : Bytes}

/-- Stored texts are written again as they were stored, if the shortening of the source file leaves
it alone and the buffer holds the record. -/
theorem encode_texts (hname : f.kept.name = Utf8.encode name)
    (htags : f.kept.tags = Utf8.encode tags) (hfile : f.kept.file = Utf8.encode file)
    (hshort : Path.shorten file = file) (hrelay : (f.bytes h).length ≤ relay.length)
    (hmax : (f.bytes h).length ≤ maxRecordSize) :
    encode relay (f.header h)
        ⟨String.ofList name, String.ofList tags, String.ofList file, .binary f.message⟩ =
      .ok ⟨(f.bytes h).length, f.bytes h ++ relay.drop (f.bytes h).length⟩ := by
  have hcapacity : (f.bytes h).length ≤ min relay.length maxRecordSize := le_min hrelay hmax
  have hall := f.length_bytes h
  have hoffset : f.kept.name.length + 3 ≤ f.kept.msgOffset := by
    simp only [Prefix.msgOffset, Prefix.fileOffset, Prefix.tagsOffset]
    omega
  have hfits : f.kept.msgOffset + f.message.length < roomIn relay := by
    unfold roomIn
    omega
  have hkeeps : f.Keeps
      ⟨String.ofList name, String.ofList tags, String.ofList file, .binary f.message⟩
      (roomIn relay) := by
    constructor
    case kept =>
      refine (Prefix.fit_texts ?_ ?_ ?_ f.name_clean f.tags_clean f.file_clean f.msgOffset_le
        (by omega)).symm
      · rw [hname, Utf8.ofString, String.toList_ofList]
      · rw [htags, Utf8.ofString, String.toList_ofList]
      · rw [hfile, String.toList_ofList, hshort]
    case message =>
      unfold fitMessage?
      dsimp only
      rw [if_neg (by omega)]
  have hsize : minRecordSize (Utf8.ofString (String.ofList name)).length ≤
      min relay.length maxRecordSize := by
    rw [Utf8.ofString, String.toList_ofList, ← hname]
    unfold minRecordSize
    omega
  rw [hkeeps.encode_eq hsize, bytes_header]

/-- If stored texts are written again as they were stored, then the shortening of the source file
leaves it alone. -/
theorem shorten_eq_of_encode_texts {rest : Bytes} {message : Payload}
    (hfile : f.kept.file = Utf8.encode file) (hcount : file.countP Path.isSeparator ≤ 2)
    (hencode : encode relay (f.header h)
        ⟨String.ofList name, String.ofList tags, String.ofList file, message⟩ =
      .ok ⟨(f.bytes h).length, f.bytes h ++ rest⟩) : Path.shorten file = file := by
  have hpos : 0 < (f.bytes h).length := by
    rw [length_bytes, headerSize]
    omega
  obtain ⟨again, -, hkeeps, -, hbytes⟩ := exists_stored hencode hpos
  -- The same bytes are read as the same source file, which is the front of the shortened one.
  rw [List.take_left] at hbytes
  have hview := again.view_bytes (f.header h)
  rw [← hbytes, view_bytes] at hview
  have hsame := congrArg (fun r : Record => r.field r.header.fileOffset) hview
  dsimp only at hsame
  rw [field_file, field_file, hfile] at hsame
  obtain ⟨-, -, kept, -, -, hprefix, -, -, hkept⟩ := hkeeps.exists_texts
  have heq : file = kept := Utf8.encode_injective ((Except.ok.inj hsame).trans hkept)
  subst heq
  rw [Fields.shortFile, String.toList_ofList] at hprefix
  have hshort : file <+: Path.shorten file := hprefix.trans (List.takeWhile_prefix _)
  exact (hshort.eq_of_length_le (Path.length_shorten_le hcount)).symm

end Stored

/-- A record that is written from what was read of another, with its message as bytes, is that
record again, in every buffer that holds it: exactly if the path of its source file does not begin
with a separator. -/
theorem encode_parsed_iff {buffer : Bytes} {header : Header} {fields : Fields} {w : Written}
    (hversion : header.version ≠ 0) (h : encode buffer header fields = .ok w)
    (hw : 0 < w.length) :
    ∃ r name tags file message, parse (w.buffer.take w.length) = .ok r ∧ r.name = .ok name ∧
      r.tags = .ok tags ∧ r.file = .ok file ∧ r.messageBytes = .ok message ∧
      ∀ relay : Bytes, w.length ≤ relay.length →
        (encode relay r.header ⟨name, tags, file, .binary message⟩ =
            .ok ⟨w.length, w.buffer.take w.length ++ relay.drop w.length⟩ ↔
          ¬ Path.Rooted file.toList) := by
  obtain ⟨f, hsize, hkeeps, hlen, hbytes⟩ := exists_stored h hw
  obtain ⟨name, tags, file, -, -, hprefix, hname, htags, hfile⟩ := hkeeps.exists_texts
  have hcount := Stored.countP_isSeparator_le hprefix
  have hmax : (f.bytes header).length ≤ maxRecordSize := by
    have hle := hkeeps.length_bytes_le header
    unfold minRecordSize headerSize at hsize
    unfold roomIn headerSize at hle
    omega
  refine ⟨⟨f.header header, f.extra⟩, String.ofList name, String.ofList tags, String.ofList file,
    f.message, ?_, ?_, ?_, ?_, f.messageBytes_view header, fun relay hrelay => ?_⟩
  · rw [hbytes]
    exact f.parse_bytes header hversion
  · rw [f.name_view, hname, textOf_encode]
  · rw [f.tags_view, htags, textOf_encode]
  · rw [f.file_view, hfile, textOf_encode]
  · rw [hbytes, hlen, String.toList_ofList, ← Path.shorten_eq_self_iff hcount]
    rw [hlen] at hrelay
    exact ⟨Stored.shorten_eq_of_encode_texts header hfile hcount,
      fun hshort => Stored.encode_texts header hname htags hfile hshort hrelay hmax⟩

/-- A record of which all but the name had to be cut is written again into a buffer that just holds
it. -/
theorem encode_parsed_cut :
    ∃ w r name tags file message, encode (List.replicate 44 0) (.new .warn 5 6 7 8)
        ⟨"relay", "é,中文", "/a/b/c/d/e.rs", .text "lost"⟩ = .ok w ∧ 0 < w.length ∧
      parse (w.buffer.take w.length) = .ok r ∧ r.name = .ok name ∧ r.tags = .ok tags ∧
      r.file = .ok file ∧ r.messageBytes = .ok message ∧ file = "c" ∧
      encode (List.replicate w.length 1) r.header ⟨name, tags, file, .binary message⟩ =
        .ok ⟨w.length, w.buffer.take w.length ++ (List.replicate w.length 1).drop w.length⟩ := by
  obtain ⟨w, hw, hlen, hcut⟩ : ∃ w, encode (List.replicate 44 0) (.new .warn 5 6 7 8)
      ⟨"relay", "é,中文", "/a/b/c/d/e.rs", .text "lost"⟩ = .ok w ∧ w.length = 44 ∧
      (parse (w.buffer.take w.length)).bind Record.file = .ok "c" :=
    ⟨_, rfl, rfl, by decide +kernel⟩
  have hpos : 0 < w.length := by omega
  obtain ⟨r, name, tags, file, message, hr, hname, htags, hfile, hmessage, hagain⟩ :=
    encode_parsed_iff (by decide) hw hpos
  have hc : file = "c" := by
    rw [hr] at hcut
    exact Except.ok.inj (hfile.symm.trans hcut)
  have hrooted : ¬ Path.Rooted file.toList := by
    rw [hc]
    simp [Path.Rooted, Path.isSeparator]
  exact ⟨w, r, name, tags, file, message, hw, hpos, hr, hname, htags, hfile, hmessage, hc,
    (hagain _ (by simp)).mpr hrooted⟩

end NetSession.Record
