import NetSession.Proofs.Record.Stored

/-!
# Records that were cut off

A record that lacks its last bytes no longer has the extended form: the terminator of its message is
gone. It may still be read in the base form, where the four extended bytes count as the start of the
extra block, so that each field seems to start four bytes earlier. The name, the tags and the source
file can be read there whenever the message can, and the message can be read if its first NUL is the
last byte that is left. There is exactly one such cut for each record, right behind the first NUL at
or behind byte `24 + msgOffset` (`baseEnd`), and it is never behind the start of the message
(`parse_take_isOk_iff`).
-/

namespace NetSession.Record

open Header

/-- Where a record can be cut off so that what is left is one of the base form: behind the first NUL
from the place on where that form has the message. -/
def baseEnd (record : Bytes) : Nat :=
  nulFrom record (baseHeaderSize + (byteAt record 23).toNat) + 1

/-- A byte that is left is what it was. -/
theorem byteAt_take {bytes : Bytes} {k i : Nat} (h : i < k) :
    byteAt (bytes.take k) i = byteAt bytes i := by
  rw [byteAt, byteAt, List.getD_eq_getElem?_getD, List.getD_eq_getElem?_getD,
    List.getElem?_take_of_lt h]

namespace Stored

variable (f : Stored) (h : Header) {k : Nat}

/-- A record that was cut off has not the extended form. -/
theorem isExtended_take (hk : k < (f.bytes h).length) :
    isExtended ((f.bytes h).take k) = false := by
  rcases Nat.lt_or_ge k headerSize with hshort | hlong
  · rw [isExtended, List.length_take, decide_eq_false (by omega), Bool.false_and]
  · -- The header is whole, but the terminator of the message that it describes is gone.
    have htake : (f.bytes h).take k =
        (f.header h).toBytes ++ f.extra.take (k - headerSize) := by
      rw [bytes, List.take_append, length_toBytes,
        List.take_of_length_le (by rw [length_toBytes]; exact hlong)]
    have hmsgLen : ((f.header h).msgLen.getD 0).toNat = f.message.length := f.toNat_msgLen
    have hgone :
        ((f.bytes h).take k)[headerSize + f.kept.msgOffset + f.message.length]? = none := by
      rw [length_bytes] at hk
      rw [List.getElem?_eq_none]
      rw [List.length_take]
      omega
    rw [htake] at hgone ⊢
    rw [isExtended_append, describes, toNat_extraOffset, toNat_msgOffset, hmsgLen, hgone]
    simp

/-- What is read of a record that was cut off behind the base form of its header. -/
theorem view_take (hle : baseHeaderSize ≤ k) (hk : k < (f.bytes h).length) :
    (view ((f.bytes h).take k)).extra = ((f.bytes h).take k).drop baseHeaderSize ∧
      (view ((f.bytes h).take k)).header.msgLen = none ∧
      (view ((f.bytes h).take k)).header.extraOffset = 24 ∧
      (view ((f.bytes h).take k)).header.nameOffset = 0 ∧
      (view ((f.bytes h).take k)).header.tagsOffset = (f.header h).tagsOffset ∧
      (view ((f.bytes h).take k)).header.fileOffset = (f.header h).fileOffset ∧
      (view ((f.bytes h).take k)).header.msgOffset = (f.header h).msgOffset := by
  rw [baseHeaderSize] at hle
  have hform := f.isExtended_take h hk
  simp only [view, readFields, hform, byteAt_take (show 20 < k by omega),
    byteAt_take (show 21 < k by omega), byteAt_take (show 22 < k by omega),
    byteAt_take (show 23 < k by omega)]
  exact ⟨rfl, rfl, rfl, rfl, rfl, rfl, rfl⟩

/-- Behind the base form of its header, a record that was cut off is read by its fields. -/
theorem parse_take (hv : h.version ≠ 0) (hle : baseHeaderSize ≤ k)
    (hk : k < (f.bytes h).length) :
    parse ((f.bytes h).take k) = (view ((f.bytes h).take k)).checkFields := by
  rw [baseHeaderSize] at hle
  apply parse_eq
  · rw [List.length_take, baseHeaderSize]
    omega
  · rw [byteAt_take (by omega), byteAt_take (by omega)]
    exact ⟨rfl, rfl⟩
  · rw [byteAt_take (by omega)]
    exact hv

/-- The source file's terminator stands right before the message. -/
theorem getElem?_bytes_fileEnd : (f.bytes h)[headerSize + f.kept.msgOffset - 1]? = some 0 := by
  have hend : headerSize + f.kept.msgOffset - 1 =
      ((f.header h).toBytes ++ (f.kept.name ++ 0 :: f.kept.tags ++ 0 :: f.kept.file)).length := by
    simp only [List.length_append, length_toBytes, List.length_cons, Prefix.msgOffset,
      Prefix.fileOffset, Prefix.tagsOffset]
    omega
  have hsplit : f.bytes h = ((f.header h).toBytes ++
      (f.kept.name ++ 0 :: f.kept.tags ++ 0 :: f.kept.file)) ++ 0 :: (f.message ++ [0]) := by
    simp [bytes, extra, Prefix.toBytes]
  rw [hend, hsplit, List.getElem?_append_right (Nat.le_refl _), Nat.sub_self]
  rfl

/-- The cut of the base form is no later than the start of the message. -/
theorem baseEnd_le : baseEnd (f.bytes h) ≤ headerSize + f.kept.msgOffset := by
  have hoffset : byteAt (f.bytes h) 23 = (f.header h).msgOffset := rfl
  have hpos : 3 ≤ f.kept.msgOffset := by
    simp only [Prefix.msgOffset, Prefix.fileOffset, Prefix.tagsOffset]
    omega
  have hle := nulFrom_le (f.getElem?_bytes_fileEnd h)
    (i := baseHeaderSize + f.kept.msgOffset) (by rw [baseHeaderSize, headerSize]; omega)
  rw [baseEnd, hoffset, toNat_msgOffset]
  rw [headerSize] at hle ⊢
  omega

/-- A record that was cut off is read exactly at the cut of the base form. -/
theorem parse_take_isOk_iff (hv : h.version ≠ 0) (hk : k < (f.bytes h).length) :
    (∃ r, parse ((f.bytes h).take k) = .ok r) ↔ k = baseEnd (f.bytes h) := by
  have hoffset : byteAt (f.bytes h) 23 = (f.header h).msgOffset := rfl
  have hend : baseHeaderSize + f.kept.msgOffset < baseEnd (f.bytes h) := by
    rw [baseEnd, hoffset, toNat_msgOffset]
    exact Nat.lt_succ_of_le (le_nulFrom _ _)
  rcases Nat.lt_or_ge k baseHeaderSize with hshort | hle
  · -- Not even the base form of the header is left.
    have hdecode : decode ((f.bytes h).take k) = .error .incomplete := by
      rw [decode, if_pos (by rw [List.length_take]; omega)]
    rw [parse, hdecode]
    simp only [bind, Except.bind, exists_false, false_iff, reduceCtorEq]
    omega
  obtain ⟨hextra, hnone, -, hname, htags, hfile, hmsg⟩ := f.view_take h hle hk
  have hlength : (view ((f.bytes h).take k)).extra.length = k - baseHeaderSize := by
    rw [hextra, List.length_drop, List.length_take, Nat.min_eq_left (Nat.le_of_lt hk)]
  -- A place in the extra block of what is left, counted from the start of the record.
  have hplace (i : Nat) : baseHeaderSize + nulFrom (view ((f.bytes h).take k)).extra i =
      baseHeaderSize + i + min (k - (baseHeaderSize + i))
        (nulFrom (f.bytes h) (baseHeaderSize + i) - (baseHeaderSize + i)) := by
    rw [hextra, nulFrom_drop, nulFrom_take]
  have hmessage := messageBytes_isOk_iff hnone
  rw [hmsg, toNat_msgOffset, hlength] at hmessage
  have hmsgPlace := hplace f.kept.msgOffset
  rw [baseEnd, hoffset, toNat_msgOffset] at hend ⊢
  rw [f.parse_take h hv hle hk]
  simp only [checkFields_eq_ok_iff]
  constructor
  · -- The message of the base form ends with the last byte that is left.
    rintro ⟨r, rfl, -, -, -, hok⟩
    have := hmessage.mp hok
    omega
  · intro hcut
    -- The fields before the message are read up to the same NUL at the latest.
    have hbefore {offset : UInt8} (hoff : offset.toNat ≤ f.kept.msgOffset) :
        ∃ text, (view ((f.bytes h).take k)).field offset = .ok text := by
      rw [field_isOk_iff, hlength]
      have hmono : nulFrom (f.bytes h) (baseHeaderSize + offset.toNat) ≤
          nulFrom (f.bytes h) (baseHeaderSize + f.kept.msgOffset) :=
        nulFrom_mono (by omega) (by omega)
      have := hplace offset.toNat
      have := le_nulFrom (f.bytes h) (baseHeaderSize + offset.toNat)
      omega
    have hoffsets : f.kept.tagsOffset ≤ f.kept.msgOffset ∧
        f.kept.fileOffset ≤ f.kept.msgOffset := by
      simp only [Prefix.msgOffset, Prefix.fileOffset]
      omega
    refine ⟨_, rfl, hbefore ?_, hbefore ?_, hbefore ?_, hmessage.mpr ?_⟩
    · rw [hname]
      exact Nat.zero_le _
    · rw [htags, toNat_tagsOffset]
      exact hoffsets.1
    · rw [hfile, toNat_fileOffset]
      exact hoffsets.2
    · omega

/-- Whatever is read of a record that was cut off is read in the base form. -/
theorem form_of_parse_take (hv : h.version ≠ 0) (hk : k < (f.bytes h).length) {r : Record}
    (hr : parse ((f.bytes h).take k) = .ok r) :
    r.header.msgLen = none ∧ r.header.extraOffset = 24 := by
  have hle : baseHeaderSize ≤ k := by
    have hcut := (f.parse_take_isOk_iff h hv hk).mp ⟨r, hr⟩
    rw [hcut, baseEnd]
    exact Nat.le_succ_of_le (Nat.le_trans (Nat.le_add_right _ _) (le_nulFrom _ _))
  obtain ⟨-, hnone, hextra, -⟩ := f.view_take h hle hk
  rw [f.parse_take h hv hle hk, checkFields_eq_ok_iff] at hr
  rw [← hr.1]
  exact ⟨hnone, hextra⟩

end Stored

/-- Of a record that was written and lost its last bytes, exactly what ends at the cut of the base
form is read, and in the base form. There is such a cut for each record. -/
theorem parse_cut_isOk_iff {buffer : Bytes} {header : Header} {fields : Fields} {w : Written}
    (hversion : header.version ≠ 0) (h : encode buffer header fields = .ok w)
    (hw : 0 < w.length) :
    baseEnd (w.buffer.take w.length) < w.length ∧
      ∀ k, k < w.length →
        ((∃ r, parse (w.buffer.take k) = .ok r) ↔ k = baseEnd (w.buffer.take w.length)) ∧
        ∀ r, parse (w.buffer.take k) = .ok r →
          r.header.msgLen = none ∧ r.header.extraOffset = 24 := by
  obtain ⟨f, -, -, hlen, hbytes⟩ := exists_stored h hw
  have hfront {k : Nat} (hk : k < w.length) : w.buffer.take k = (f.bytes header).take k := by
    rw [← hbytes, List.take_take, Nat.min_eq_left (Nat.le_of_lt hk)]
  have hall := f.length_bytes header
  rw [hbytes]
  constructor
  · have := f.baseEnd_le header
    omega
  · intro k hk
    rw [hfront hk]
    rw [hlen] at hk
    exact ⟨f.parse_take_isOk_iff header hversion hk,
      fun r hr => f.form_of_parse_take header hversion hk hr⟩

/-- A record that is cut off right before its message is read. -/
theorem parse_cut_before_message :
    ∃ w, encode (List.replicate 64 0) (.new .debug 1700000123 10 20 30)
        ⟨"xlog", "a,b", "/p/q/r/s.c", .text "payload"⟩ = .ok w ∧ w.length = 53 ∧
      ∃ r, parse (w.buffer.take 45) = .ok r ∧ r.header.msgLen = none := by
  obtain ⟨w, hw, hlen, hcut⟩ : ∃ w, encode (List.replicate 64 0) (.new .debug 1700000123 10 20 30)
      ⟨"xlog", "a,b", "/p/q/r/s.c", .text "payload"⟩ = .ok w ∧ w.length = 53 ∧
      baseEnd (w.buffer.take w.length) = 45 := ⟨_, rfl, rfl, rfl⟩
  obtain ⟨-, hiff⟩ := parse_cut_isOk_iff (by decide) hw (by omega)
  obtain ⟨r, hr⟩ := (hiff 45 (by omega)).1.mpr hcut.symm
  exact ⟨w, hw, hlen, r, hr, ((hiff 45 (by omega)).2 r hr).1⟩

end NetSession.Record
