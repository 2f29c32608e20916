import NetSession.Proofs.Record.HeaderForms

/-!
# Bytes behind a record

The extended form says where a record ends: every field of it has its NUL before the end of the
bytes, and its header fits more bytes as well as it fits those (`Header.Fits.append`). So whatever
bytes follow, the same is read, from everything that is read in the extended form and not only from
what was written: `parse_append`. The base form has no such end, as its message must be the last
thing in the bytes.
-/

namespace NetSession.Record

open Header

/-! ## The header -/

namespace Header

variable {h : Header} {length : UInt16} {bytes : Bytes}

/-- A header that fits some bytes fits more. -/
theorem Fits.append (hfits : h.Fits length bytes) (rest : Bytes) :
    h.Fits length (bytes ++ rest) := by
  obtain ⟨hge, hle, hflags, hnul⟩ := hfits
  have hin := (List.getElem?_eq_some_iff.mp hnul).1
  refine ⟨hge, ?_, hflags, ?_⟩
  · rw [List.length_append]
    omega
  · rw [List.getElem?_append_left hin]
    exact hnul

/-- The header of more bytes is the same, if it was read in the extended form. -/
theorem decode_append_of_msgLen (hread : decode bytes = .ok h) (hlength : h.msgLen ≠ none)
    (rest : Bytes) : decode (bytes ++ rest) = .ok h := by
  obtain ⟨length, hsome⟩ := Option.ne_none_iff_exists'.mp hlength
  have hfits := (fits_of_decode hread hsome).append rest
  obtain ⟨-, hbytes⟩ := toBytes_append_of_decode hread hlength
  obtain ⟨hbegins, hform⟩ := decode_eq_ok_iff.mp hread
  have hversion : h.version ≠ 0 := by
    rw [hform]
    exact hbegins.version
  -- The bytes begin with the header as it is written.
  rw [← hbytes, List.append_assoc] at hfits ⊢
  rw [decode_append hversion, readFields_of_fits hsome hfits]

end Header

/-! ## The fields -/

/-- A record with more bytes at the end of its extra block. -/
def followedBy (r : Record) (rest : Bytes) : Record := ⟨r.header, r.extra ++ rest⟩

variable {r : Record}

/-- A field that can be read is the same with more bytes behind the record. -/
theorem field_followedBy {offset : UInt8} {text : Bytes} (h : r.field offset = .ok text)
    (rest : Bytes) : (r.followedBy rest).field offset = .ok text := by
  unfold field at h
  dsimp only at h
  split_ifs at h with houtside hnul
  obtain rfl := Except.ok.inj h
  have hin : ¬ (r.extra ++ rest).length ≤ offset.toNat := by
    rw [List.length_append]
    omega
  have htail : (r.extra ++ rest).drop offset.toNat = r.extra.drop offset.toNat ++ rest :=
    List.drop_append_of_le_length (by omega)
  -- The first NUL is the one that there was.
  have hfirst : (r.extra.drop offset.toNat ++ rest).takeWhile (· != 0) =
      (r.extra.drop offset.toNat).takeWhile (· != 0) := by
    rw [List.takeWhile_append, if_neg (Nat.ne_of_lt (zero_mem_iff.mp hnul))]
  unfold followedBy field
  dsimp only
  rw [if_neg hin, htail, if_pos (List.mem_append_left rest hnul), hfirst]

/-- A message of known length is the same with more bytes behind the record. -/
theorem messageBytes_followedBy {length : UInt16} {message : Bytes}
    (hlength : r.header.msgLen = some length) (h : r.messageBytes = .ok message) (rest : Bytes) :
    (r.followedBy rest).messageBytes = .ok message := by
  unfold messageBytes at h
  rw [hlength] at h
  dsimp only at h
  split_ifs at h with houtside hnul
  rw [not_not] at hnul
  have hin : ¬ (r.extra ++ rest).length ≤ r.header.msgOffset.toNat + length.toNat := by
    rw [List.length_append]
    omega
  have hlast : (r.extra ++ rest)[r.header.msgOffset.toNat + length.toNat]? = some 0 := by
    rw [List.getElem?_append_left (Nat.lt_of_not_le houtside), hnul]
  have hslice : ((r.extra ++ rest).drop r.header.msgOffset.toNat).take length.toNat =
      (r.extra.drop r.header.msgOffset.toNat).take length.toNat := by
    rw [List.drop_append_of_le_length (by omega), List.take_append_of_le_length]
    rw [List.length_drop]
    omega
  unfold followedBy messageBytes
  dsimp only
  rw [hlength]
  dsimp only
  rw [if_neg hin, if_neg (not_not.mpr hlast), hslice]
  exact h

/-- Each field of a record whose message has a known length is the same with more bytes behind the
record. -/
theorem Part.read_followedBy {part : Part} {text : Bytes} (hlength : r.header.msgLen ≠ none)
    (h : part.read r = .ok text) (rest : Bytes) : part.read (r.followedBy rest) = .ok text := by
  cases part with
  | name => exact field_followedBy h rest
  | tags => exact field_followedBy h rest
  | file => exact field_followedBy h rest
  | message =>
    obtain ⟨length, hsome⟩ := Option.ne_none_iff_exists'.mp hlength
    exact messageBytes_followedBy hsome h rest

/-! ## The record -/

/-- More bytes are taken for the record with more bytes at its end. -/
theorem view_append {bytes : Bytes} (hbegins : Begins bytes)
    (hlength : (view bytes).header.msgLen ≠ none) (rest : Bytes) :
    Begins (bytes ++ rest) ∧ view (bytes ++ rest) = (view bytes).followedBy rest := by
  have hread : decode bytes = .ok (readFields bytes) := decode_eq_ok_iff.mpr ⟨hbegins, rfl⟩
  obtain ⟨hmore, hform⟩ := decode_eq_ok_iff.mp (decode_append_of_msgLen hread hlength rest)
  refine ⟨hmore, ?_⟩
  unfold view followedBy
  rw [← hform, List.drop_append_of_le_length (extraOffset_readFields_le hbegins.length_ge)]

/-- Whatever is read as a record with a message length is read as the same record with any bytes
behind it: with the same header and the same bytes in each field, which hold the same texts. -/
theorem parse_append {bytes : Bytes} (hread : parse bytes = .ok r)
    (hlength : r.header.msgLen ≠ none) (rest : Bytes) :
    ∃ r', parse (bytes ++ rest) = .ok r' ∧ r'.header = r.header ∧
      (∀ part : Part, ∃ text, part.read r = .ok text ∧ part.read r' = .ok text) ∧
      r'.name = r.name ∧ r'.tags = r.tags ∧ r'.file = r.file ∧ r'.message = r.message := by
  obtain ⟨hbegins, hfits, rfl⟩ := parse_eq_ok_iff.mp hread
  obtain ⟨hmore, hview⟩ := view_append hbegins hlength rest
  have hparts (part : Part) : ∃ text, part.read (view bytes) = .ok text ∧
      part.read ((view bytes).followedBy rest) = .ok text := by
    obtain ⟨text, htext, -⟩ := Part.exists_read_of_fits (hfits part)
    exact ⟨text, htext, Part.read_followedBy hlength htext rest⟩
  have hsame (part : Part) :
      part.read ((view bytes).followedBy rest) = part.read (view bytes) := by
    obtain ⟨text, htext, htext'⟩ := hparts part
    rw [htext, htext']
  have htexts (part : Part) : (do textOf (← part.read ((view bytes).followedBy rest))) =
      (do textOf (← part.read (view bytes))) := by
    rw [hsame part]
  refine ⟨(view bytes).followedBy rest, ?_, rfl, hparts, htexts .name, htexts .tags, htexts .file,
    htexts .message⟩
  rw [parse_eq hmore.length_ge hmore.marked hmore.version, hview, checkFields_isOk_iff]
  refine ⟨rfl, fun part => ?_⟩
  obtain ⟨text, -, htext⟩ := hparts part
  exact ⟨text, htext⟩

/-- A record whose name lies inside its message and whose tags stand before both, with three more
bytes behind it. -/
theorem parse_append_overlapping :
    let h : Header :=
      { Header.new .warn 5 6 7 8 with nameOffset := 4, fileOffset := 5, msgOffset := 2,
                                      msgLen := some 4 }
    let r : Record := ⟨h, [116, 0, 109, 0, 110, 0, 0]⟩
    parse (h.toBytes ++ r.extra) = .ok r ∧ h.msgLen ≠ none ∧
      ∃ r', parse (h.toBytes ++ r.extra ++ [1, 0, 2]) = .ok r' ∧ r'.header = h ∧
        r'.name = .ok "n" ∧ r'.messageBytes = .ok [109, 0, 110, 0] := by
  intro h r
  have hread : parse (h.toBytes ++ r.extra) = .ok r := by decide +kernel
  have hname : r.name = .ok "n" := by decide +kernel
  have hmessage : r.messageBytes = .ok [109, 0, 110, 0] := by decide +kernel
  have hlength : h.msgLen ≠ none := by decide
  obtain ⟨r', hread', hheader, hparts, hname', -⟩ := parse_append hread hlength [1, 0, 2]
  obtain ⟨text, htext, htext'⟩ := hparts .message
  have hbytes : text = [109, 0, 110, 0] := Except.ok.inj (htext.symm.trans hmessage)
  exact ⟨hread, hlength, r', hread', hheader, hname'.trans hname, hbytes ▸ htext'⟩

end NetSession.Record
