import NetSession.Proofs.Record.Format

/-!
# Headers written and read

Writing a header and reading it are inverse to each other where the extended fields fit the bytes
(`Header.Fits`). A header that was written is read back as it is if they do, and without them
(`Header.reduced`) if they do not, whatever stands behind it: even the byte that has to end the
message may be one of the header's own. A header that was read with a message length is written as
the bytes that it was read from (`toBytes_readFields`). Whatever is read has passed the checks of a
header. `Header.decode_encode` says all of this.
-/

namespace NetSession.Record

open Header

/-! ## Bytes by their places -/

/-- A slice of some bytes, byte by byte. -/
theorem take_drop_eq_map {bytes : Bytes} {i n : Nat} (hle : i + n ≤ bytes.length) :
    (bytes.drop i).take n = (List.range' i n).map (byteAt bytes) := by
  induction n generalizing i with
  | zero => rfl
  | succ n ih =>
    have hi : i < bytes.length := by omega
    have hbyte : byteAt bytes i = bytes[i] := by
      simp [byteAt, hi]
    rw [List.drop_eq_getElem_cons hi, List.take_succ_cons, ih (by omega), List.range'_succ,
      List.map_cons, hbyte]

/-- The bytes of the extended form, field by field. -/
theorem take_headerSize (bytes : Bytes) :
    bytes.take headerSize = bytes.take 4 ++ (bytes.drop 4).take 4 ++ (bytes.drop 8).take 4 ++
      (bytes.drop 12).take 4 ++ (bytes.drop 16).take 4 ++ (bytes.drop 20).take 4 ++
      (bytes.drop 24).take 2 ++ (bytes.drop 26).take 2 := by
  have hsize : headerSize = 4 + 4 + 4 + 4 + 4 + 4 + 2 + 2 := rfl
  rw [hsize]
  simp only [List.take_add]

/-- A header that was read in the extended form is written as the bytes that it was read from. -/
theorem toBytes_readFields {bytes : Bytes} (hext : Extended bytes) (hmarked : Marked bytes) :
    (readFields bytes).toBytes = bytes.take headerSize := by
  have hlen := hext.length_ge
  obtain ⟨hfirst, hsecond⟩ := hmarked
  have hword {i : Nat} (hi : i + 4 ≤ 28) :
      Word.ofInt32 (wordAt bytes i) = (bytes.drop i).take 4 := by
    apply Word.ofInt32_toInt32
    rw [List.length_take, List.length_drop]
    omega
  have hshort : Word.toBytes 2 (msgLenAt bytes).toNat = (bytes.drop 24).take 2 := by
    apply Word.toBytes_toUInt16
    rw [List.length_take, List.length_drop]
    omega
  have hstart : bytes.take 4 = [byteAt bytes 0, magic1, magic2, byteAt bytes 3] := by
    have h : (bytes.drop 0).take 4 = (List.range' 0 4).map (byteAt bytes) :=
      take_drop_eq_map (by omega)
    rw [List.drop_zero] at h
    rw [h, magic1, magic2, ← hfirst, ← hsecond]
    rfl
  have hoffsets : (bytes.drop 20).take 4 =
      [byteAt bytes 20, byteAt bytes 21, byteAt bytes 22, byteAt bytes 23] :=
    take_drop_eq_map (by omega)
  have hlast : (bytes.drop 26).take 2 = [byteAt bytes 26, byteAt bytes 27] :=
    take_drop_eq_map (by omega)
  have hlevel : (byteAt bytes 3).toInt8.toUInt8 = byteAt bytes 3 := UInt8.toUInt8_toInt8 _
  unfold readFields toBytes
  simp only [isExtended_iff.mpr hext, if_true, Option.getD_some]
  rw [hword (by omega), hword (by omega), hword (by omega), hword (by omega), hshort, hlevel,
    ← hstart, ← hoffsets, ← hlast, take_headerSize]

/-! ## Headers that are read -/

/-- A message length is read in the extended form only. -/
theorem extended_of_msgLen_ne_none {bytes : Bytes} (h : (readFields bytes).msgLen ≠ none) :
    Extended bytes := by
  by_contra hbase
  rw [msgLen_readFields, if_neg hbase] at h
  exact h rfl

/-- A header is read exactly from bytes that begin like a record, in the form that they have. -/
theorem decode_eq_ok_iff {bytes : Bytes} {h : Header} :
    decode bytes = .ok h ↔ Begins bytes ∧ h = readFields bytes := by
  constructor
  · intro hread
    unfold decode at hread
    split_ifs at hread with hlen hmarks hversion
    have hmarked : Marked bytes := by
      rw [not_or, not_not, not_not] at hmarks
      exact hmarks
    exact ⟨⟨Nat.le_of_not_lt hlen, hmarked, hversion⟩, (Except.ok.inj hread).symm⟩
  · rintro ⟨hbegins, rfl⟩
    exact decode_eq hbegins.length_ge hbegins.marked hbegins.version

namespace Header

/-- The extended fields of a header fit some bytes: the extra block is inside them and behind the
base header, a flag is set in later versions only, and there is a NUL where the message ends. -/
structure Fits (h : Header) (length : UInt16) (bytes : Bytes) : Prop where
  /-- The extra block is behind the base header. -/
  start_ge : 24 ≤ h.extraOffset.toNat
  /-- The extra block starts inside the bytes. -/
  start_le : h.extraOffset.toNat ≤ bytes.length
  /-- No flag is set, or the version is a later one. -/
  flags : h.flags = 0 ∨ 1 < h.version
  /-- The message ends with a NUL. -/
  terminated : bytes[h.extraOffset.toNat + h.msgOffset.toNat + length.toNat]? = some 0

/-- A header as the base form has it. -/
def reduced (h : Header) : Header := { h with msgLen := none, extraOffset := 24, flags := 0 }

variable {h : Header} {length : UInt16}

/-- Bytes behind a header are read in the extended form exactly if its extended fields fit them. -/
theorem isExtended_append_iff (hlength : h.msgLen = some length) (rest : Bytes) :
    isExtended (h.toBytes ++ rest) = true ↔ h.Fits length (h.toBytes ++ rest) := by
  rw [isExtended_append, hlength, Option.getD_some, describes]
  simp only [Bool.and_eq_true, Bool.or_eq_true, decide_eq_true_eq, beq_iff_eq]
  rw [baseHeaderSize, currentVersion]
  constructor
  · rintro ⟨⟨⟨hge, hle⟩, hflags⟩, hnul⟩
    exact ⟨hge, hle, hflags.symm, hnul⟩
  · rintro ⟨hge, hle, hflags, hnul⟩
    exact ⟨⟨⟨hge, hle⟩, hflags.symm⟩, hnul⟩

/-- A header of an existing version can be read, in one of the two forms. -/
theorem decode_append (hversion : h.version ≠ 0) (rest : Bytes) :
    decode (h.toBytes ++ rest) = .ok (readFields (h.toBytes ++ rest)) := by
  have hlen : baseHeaderSize ≤ (h.toBytes ++ rest).length := by
    rw [List.length_append, length_toBytes, baseHeaderSize, headerSize]
    omega
  exact decode_eq hlen ⟨rfl, rfl⟩ hversion

/-- A header whose extended fields fit is read as it is. -/
theorem readFields_of_fits (hlength : h.msgLen = some length) {rest : Bytes}
    (hfits : h.Fits length (h.toBytes ++ rest)) : readFields (h.toBytes ++ rest) = h := by
  rw [readFields_append, (isExtended_append_iff hlength rest).mpr hfits]
  show { h with msgLen := some (h.msgLen.getD 0) } = h
  rw [hlength, Option.getD_some, ← hlength]

/-- A header whose extended fields do not fit is read without them. -/
theorem readFields_of_not_fits (hlength : h.msgLen = some length) {rest : Bytes}
    (hfits : ¬ h.Fits length (h.toBytes ++ rest)) :
    readFields (h.toBytes ++ rest) = h.reduced := by
  have hbase : isExtended (h.toBytes ++ rest) = false := by
    rw [← Bool.not_eq_true, isExtended_append_iff hlength]
    exact hfits
  rw [readFields_append, hbase, reduced]
  simp only [Bool.false_eq_true, if_false]

/-- Bytes whose header is read with a message length begin with that header as it is written. -/
theorem toBytes_append_of_decode {bytes : Bytes} (hread : decode bytes = .ok h)
    (hlength : h.msgLen ≠ none) :
    28 ≤ bytes.length ∧ h.toBytes ++ bytes.drop headerSize = bytes := by
  obtain ⟨hbegins, rfl⟩ := decode_eq_ok_iff.mp hread
  have hext := extended_of_msgLen_ne_none hlength
  refine ⟨hext.length_ge, ?_⟩
  rw [toBytes_readFields hext hbegins.marked, List.take_append_drop]

/-- The extended fields of a header fit the bytes that it was read from. -/
theorem fits_of_decode {bytes : Bytes} (hread : decode bytes = .ok h)
    (hlength : h.msgLen = some length) : h.Fits length bytes := by
  have hsome : h.msgLen ≠ none := by
    rw [hlength]
    exact Option.some_ne_none length
  obtain ⟨-, hbytes⟩ := toBytes_append_of_decode hread hsome
  obtain ⟨-, hform⟩ := decode_eq_ok_iff.mp hread
  rw [hform] at hsome
  have hext := isExtended_iff.mpr (extended_of_msgLen_ne_none hsome)
  rw [← hbytes] at hext ⊢
  exact (isExtended_append_iff hlength _).mp hext

/-- Over a buffer that is long enough, a header is written, and what is behind it stays. -/
theorem encode_of_le (h : Header) {buffer : Bytes} (hlen : headerSize ≤ buffer.length) :
    h.encode buffer = .ok (h.toBytes ++ buffer.drop headerSize) := by
  rw [encode, if_neg (Nat.not_lt.mpr hlen)]

/-- Writing a header and reading it. What is written over a buffer with room for it is read back as
the header itself if its extended fields fit, and else as the base form of it. What is read with a
message length is written as it was. And what is read passes its checks, and has its extra block
behind the base header and inside the bytes. -/
theorem decode_encode (h : Header) :
    (∀ (length : UInt16) (buffer : Bytes), h.msgLen = some length → 1 ≤ h.version →
      28 ≤ buffer.length → ∃ bytes, h.encode buffer = .ok bytes ∧
        bytes.length = buffer.length ∧ bytes.drop 28 = buffer.drop 28 ∧
        (h.Fits length bytes → decode bytes = .ok h) ∧
        (¬ h.Fits length bytes → decode bytes = .ok h.reduced)) ∧
    (∀ bytes, decode bytes = .ok h → h.msgLen ≠ none → h.encode bytes = .ok bytes) ∧
    ∀ bytes, decode bytes = .ok h →
      h.validate = .ok () ∧ 24 ≤ h.extraOffset.toNat ∧ h.extraOffset.toNat ≤ bytes.length := by
  refine ⟨fun length buffer hlength hversion hlen => ?_, fun bytes hread hsome => ?_,
    fun bytes hread => ?_⟩
  · have hwritten := length_toBytes h
    have hexists : h.version ≠ 0 := fun hzero => by
      rw [hzero] at hversion
      exact absurd hversion (by decide)
    refine ⟨h.toBytes ++ buffer.drop headerSize, encode_of_le h hlen, ?_, ?_, ?_, ?_⟩
    · rw [List.length_append, List.length_drop, hwritten, headerSize]
      omega
    · exact List.drop_left' hwritten
    · intro hfits
      rw [decode_append hexists, readFields_of_fits hlength hfits]
    · intro hfits
      rw [decode_append hexists, readFields_of_not_fits hlength hfits]
  · obtain ⟨hlen, hbytes⟩ := toBytes_append_of_decode hread hsome
    rw [encode_of_le h hlen, hbytes]
  · obtain ⟨hbegins, rfl⟩ := decode_eq_ok_iff.mp hread
    exact ⟨validate_readFields hbegins.version, extraOffset_readFields_ge bytes,
      extraOffset_readFields_le hbegins.length_ge⟩

/-- A header whose extra block starts before its own end, so that its flags end the message of three
bytes, is read back as it is; with a message of four bytes, which nothing ends, it is read in the
base form. -/
theorem decode_encode_overlapping :
    let h (length : UInt16) : Header :=
      { Header.new .info 1 (-2) 3 4 with msgLen := some length, extraOffset := 24 }
    (∃ bytes, (h 3).encode (List.replicate 28 7) = .ok bytes ∧ decode bytes = .ok (h 3) ∧
      (h 3).encode bytes = .ok bytes ∧ (h 3).validate = .ok ()) ∧
    ∃ bytes, (h 4).encode (List.replicate 28 7) = .ok bytes ∧ decode bytes = .ok (h 4).reduced := by
  intro h
  obtain ⟨hinverse, hback, hsound⟩ := decode_encode (h 3)
  obtain ⟨bytes, hbytes, -, -, hfits, -⟩ :=
    hinverse 3 (List.replicate 28 7) rfl (by decide) (by decide)
  obtain ⟨bytes', hbytes', -, -, -, hmisfits⟩ :=
    (decode_encode (h 4)).1 4 (List.replicate 28 7) rfl (by decide) (by decide)
  have hread : decode bytes = .ok (h 3) := by
    apply hfits
    rw [← Except.ok.inj hbytes]
    exact ⟨by decide, by decide, by decide, by decide⟩
  refine ⟨⟨bytes, hbytes, hread, hback bytes hread (by decide), (hsound bytes hread).1⟩,
    bytes', hbytes', hmisfits fun hfits => ?_⟩
  have hnul := hfits.terminated
  rw [← Except.ok.inj hbytes'] at hnul
  exact absurd hnul (by decide)

end Header

end NetSession.Record
