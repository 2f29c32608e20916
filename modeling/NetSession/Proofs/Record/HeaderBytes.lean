import NetSession.Record.Decode

/-!
# Headers read back

`Header.toBytes` puts each field where `Header.readFields` looks for it, whatever follows the
header (`readFields_append`). Which of the two forms is read depends on what follows; for bytes that
start with a whole header it is the extended one exactly if that header describes them
(`isExtended_append`).

A header that was read needs no further check: `Record.parse_eq` reduces reading a record to the
checks of its four fields.
-/

namespace NetSession

namespace Word

/-- The bytes of a signed word read back as that word. -/
theorem toInt32_ofInt32 (n : Int32) : toInt32 (ofInt32 n) = n := by
  have hlt : n.toUInt32.toNat < 2 ^ 32 := n.toUInt32.toNat_lt
  have hpow : Nat.pow 256 4 = 2 ^ 32 := by decide
  rw [toInt32, ofInt32, ofBytes_toBytes, hpow, Nat.mod_eq_of_lt hlt]
  simp

/-- The bytes of a short word read back as that word. -/
theorem toUInt16_toBytes (n : UInt16) : (ofBytes (toBytes 2 n.toNat)).toUInt16 = n := by
  have hlt : n.toNat < 2 ^ 16 := n.toNat_lt
  have hpow : Nat.pow 256 2 = 2 ^ 16 := by decide
  rw [ofBytes_toBytes, hpow, Nat.mod_eq_of_lt hlt]
  simp

/-- The bytes of a number that was read are those that it was read from. -/
theorem toBytes_ofBytes (bytes : Bytes) : toBytes bytes.length (ofBytes bytes) = bytes := by
  induction bytes with
  | nil => rfl
  | cons b bytes ih =>
    have hb := b.toNat_lt
    have hlow : (b.toNat + 256 * ofBytes bytes).toUInt8 = b := by
      rw [← UInt8.toNat_inj, Nat.toUInt8_eq, UInt8.toNat_ofNat']
      omega
    have hhigh : (b.toNat + 256 * ofBytes bytes) / 256 = ofBytes bytes := by
      omega
    rw [List.length_cons, ofBytes, toBytes, hlow, hhigh, ih]

/-- A number that was read is in the range of its width. -/
theorem ofBytes_lt (bytes : Bytes) : ofBytes bytes < Nat.pow 256 bytes.length := by
  induction bytes with
  | nil => exact Nat.one_pos
  | cons b bytes ih =>
    have hb := b.toNat_lt
    have hpow : Nat.pow 256 (bytes.length + 1) = Nat.pow 256 bytes.length * 256 := rfl
    rw [List.length_cons, ofBytes, hpow]
    omega

/-- The bytes of a signed word that was read are those that it was read from. -/
theorem ofInt32_toInt32 {bytes : Bytes} (hlen : bytes.length = 4) :
    ofInt32 (toInt32 bytes) = bytes := by
  have hlt : ofBytes bytes < 2 ^ 32 := by
    have h := ofBytes_lt bytes
    rw [hlen] at h
    exact h
  have hword : (ofBytes bytes).toUInt32.toNat = ofBytes bytes := UInt32.toNat_ofNat_of_lt' hlt
  calc ofInt32 (toInt32 bytes) = toBytes 4 (ofBytes bytes).toUInt32.toNat := by
        rw [ofInt32, toInt32, UInt32.toUInt32_toInt32]
    _ = toBytes bytes.length (ofBytes bytes) := by rw [hword, hlen]
    _ = bytes := toBytes_ofBytes bytes

/-- The bytes of a short word that was read are those that it was read from. -/
theorem toBytes_toUInt16 {bytes : Bytes} (hlen : bytes.length = 2) :
    toBytes 2 (ofBytes bytes).toUInt16.toNat = bytes := by
  have hlt : ofBytes bytes < 2 ^ 16 := by
    have h := ofBytes_lt bytes
    rw [hlen] at h
    exact h
  have hword : (ofBytes bytes).toUInt16.toNat = ofBytes bytes := UInt16.toNat_ofNat_of_lt' hlt
  calc toBytes 2 (ofBytes bytes).toUInt16.toNat = toBytes bytes.length (ofBytes bytes) := by
        rw [hword, hlen]
    _ = bytes := toBytes_ofBytes bytes

end Word

namespace Record.Header

variable (h : Header) (rest : Bytes)

/-- The length that is written for the message reads back. -/
theorem msgLenAt_append : msgLenAt (h.toBytes ++ rest) = h.msgLen.getD 0 :=
  Word.toUInt16_toBytes _

/-- Bytes that start with a header have the extended form exactly if the header describes them. -/
theorem isExtended_append : isExtended (h.toBytes ++ rest) =
    describes (h.toBytes ++ rest) h.version h.msgOffset (h.msgLen.getD 0) h.extraOffset
      h.flags := by
  have hlen : headerSize ≤ (h.toBytes ++ rest).length := by
    rw [List.length_append, length_toBytes]
    exact Nat.le_add_right _ _
  rw [isExtended, msgLenAt_append, decide_eq_true hlen, Bool.true_and]
  rfl

/-- All fields of a header but the extended ones read back, whatever follows it. -/
theorem readFields_append : readFields (h.toBytes ++ rest) =
    { h with
      msgLen := if isExtended (h.toBytes ++ rest) then some (h.msgLen.getD 0) else none
      extraOffset := if isExtended (h.toBytes ++ rest) then h.extraOffset else 24
      flags := if isExtended (h.toBytes ++ rest) then h.flags else 0 } := by
  have htime : wordAt (h.toBytes ++ rest) 4 = h.time := Word.toInt32_ofInt32 h.time
  have hpid : wordAt (h.toBytes ++ rest) 8 = h.pid := Word.toInt32_ofInt32 h.pid
  have htid : wordAt (h.toBytes ++ rest) 12 = h.tid := Word.toInt32_ofInt32 h.tid
  have hline : wordAt (h.toBytes ++ rest) 16 = h.line := Word.toInt32_ofInt32 h.line
  have hlevel : (byteAt (h.toBytes ++ rest) 3).toInt8 = h.level.value := by
    show h.level.value.toUInt8.toInt8 = h.level.value
    simp
  rw [readFields, htime, hpid, htid, hline, hlevel, msgLenAt_append]
  rfl

end Record.Header

namespace Record

open Header

/-! ## Sound headers -/

/-- The extra block of the form that the bytes have lies behind the base header. -/
theorem extraOffset_readFields_ge (bytes : Bytes) :
    baseHeaderSize ≤ (readFields bytes).extraOffset.toNat := by
  simp only [readFields]
  split
  · next h =>
    simp only [isExtended, describes, Bool.and_eq_true, decide_eq_true_eq] at h
    exact h.2.1.1.1
  · exact Nat.le_refl _

/-- The extra block of the form that the bytes have starts inside them. -/
theorem extraOffset_readFields_le {bytes : Bytes} (hlen : baseHeaderSize ≤ bytes.length) :
    (readFields bytes).extraOffset.toNat ≤ bytes.length := by
  simp only [readFields]
  split
  · next h =>
    simp only [isExtended, describes, Bool.and_eq_true, decide_eq_true_eq] at h
    exact h.2.1.1.2
  · exact hlen

/-- The form that the bytes have sets no reserved flag of a known version. -/
theorem flags_readFields (bytes : Bytes) :
    currentVersion < (readFields bytes).version ∨ (readFields bytes).flags = 0 := by
  simp only [readFields]
  split
  · next h =>
    simp only [isExtended, describes, Bool.and_eq_true, Bool.or_eq_true, decide_eq_true_eq,
      beq_iff_eq] at h
    exact h.2.1.2
  · exact Or.inr rfl

/-- A header of an existing version that was read passes its checks. -/
theorem validate_readFields {bytes : Bytes} (hv : byteAt bytes 0 ≠ 0) :
    (readFields bytes).validate = .ok () := by
  have hversion : (readFields bytes).version ≠ 0 := hv
  have hextra := extraOffset_readFields_ge bytes
  rw [validate, if_neg hversion, if_neg (Nat.not_lt.mpr hextra), if_neg]
  -- Flags are left over in newer versions only.
  rintro ⟨hle, hflags⟩
  exact (flags_readFields bytes).elim (fun hlt => absurd hlt (UInt8.not_lt.mpr hle)) hflags

/-- The checks of a record's fields, in the order in which they are made. -/
def checkFields (r : Record) : Except Fault Record := do
  let _ ← r.field r.header.nameOffset
  let _ ← r.field r.header.tagsOffset
  let _ ← r.field r.header.fileOffset
  let _ ← r.messageBytes
  return r

/-- The record that bytes are taken for: the header in the form that they have, and what lies behind
it. -/
def view (bytes : Bytes) : Record :=
  ⟨readFields bytes, bytes.drop (readFields bytes).extraOffset.toNat⟩

/-- Behind a sound start, a header is read in the form that the bytes have. -/
theorem decode_eq {bytes : Bytes} (hlen : baseHeaderSize ≤ bytes.length)
    (hmagic : byteAt bytes 1 = magic1 ∧ byteAt bytes 2 = magic2) (hv : byteAt bytes 0 ≠ 0) :
    decode bytes = .ok (readFields bytes) := by
  rw [decode, if_neg (Nat.not_lt.mpr hlen), if_neg (by simp [hmagic]), if_neg hv]

/-- Behind a sound start, reading a record is checking its fields. -/
theorem parse_eq {bytes : Bytes} (hlen : baseHeaderSize ≤ bytes.length)
    (hmagic : byteAt bytes 1 = magic1 ∧ byteAt bytes 2 = magic2) (hv : byteAt bytes 0 ≠ 0) :
    parse bytes = (view bytes).checkFields := by
  have hdecode := decode_eq hlen hmagic hv
  have hfits : ¬ bytes.length < (readFields bytes).extraOffset.toNat :=
    Nat.not_lt.mpr (extraOffset_readFields_le hlen)
  -- The checks of the header pass, whichever form it has.
  rw [parse, hdecode]
  show (do (readFields bytes).validate; _) = _
  rw [validate_readFields hv]
  show (if _ then _ else _) = _
  rw [if_neg hfits]
  rfl

/-- A record passes exactly if its four fields do, and then it is what was checked. -/
theorem checkFields_eq_ok_iff {r s : Record} :
    r.checkFields = .ok s ↔ r = s ∧ (∃ name, r.field r.header.nameOffset = .ok name) ∧
      (∃ tags, r.field r.header.tagsOffset = .ok tags) ∧
      (∃ file, r.field r.header.fileOffset = .ok file) ∧
        ∃ message, r.messageBytes = .ok message := by
  rw [checkFields]
  cases r.field r.header.nameOffset <;> cases r.field r.header.tagsOffset <;>
    cases r.field r.header.fileOffset <;> cases r.messageBytes <;>
    simp [bind, Except.bind, pure, Except.pure]

end Record

end NetSession
