import NetSession.Proofs.Text.Utf8

/-!
# The bytes of a text

Bytes are read as a text exactly if they are the bytes of that text (`Utf8.decode?_eq_some_iff`), so
no text has a second form. A character that the reader gives takes it from the start state back to
the start state, and the bytes that it takes on the way are those of the character
(`exists_of_partsFrom_start`): each state says which byte may come next, and together these ranges
leave out longer forms, surrogates, and numbers beyond the last character.
-/

namespace NetSession.Utf8

/-- The byte that completes a character. -/
theorem exists_of_partsFrom_inside_zero {value low high : Nat} {bytes : Bytes} {c : Char}
    {parts : List (Option Char)}
    (h : partsFrom (.inside 0 value low high) bytes = some c :: parts) :
    ∃ b rest, bytes = b :: rest ∧ low ≤ b.toNat ∧ b.toNat ≤ high ∧
      c = Char.ofNat (value * 0x40 + (b.toNat - 0x80)) ∧ partsFrom .start rest = parts := by
  cases bytes with
  | nil => simp [partsFrom] at h
  | cons b rest =>
    simp only [partsFrom, step] at h
    split_ifs at h with hrange
    · obtain ⟨hc, hparts⟩ := List.cons.inj h
      exact ⟨b, rest, rfl, hrange.1, hrange.2, (Option.some.inj hc).symm, hparts⟩
    · simp at h

/-- A byte that leaves more to come. -/
theorem exists_of_partsFrom_inside_succ {left value low high : Nat} {bytes : Bytes} {c : Char}
    {parts : List (Option Char)}
    (h : partsFrom (.inside (left + 1) value low high) bytes = some c :: parts) :
    ∃ b rest, bytes = b :: rest ∧ low ≤ b.toNat ∧ b.toNat ≤ high ∧
      partsFrom (.inside left (value * 0x40 + (b.toNat - 0x80)) 0x80 0xBF) rest =
        some c :: parts := by
  cases bytes with
  | nil => simp [partsFrom] at h
  | cons b rest =>
    simp only [partsFrom, step] at h
    split_ifs at h with hrange
    · exact ⟨b, rest, rfl, hrange.1, hrange.2, h⟩
    · simp at h

/-- A byte is given by its number. -/
theorem toUInt8_of_eq {n : Nat} {b : UInt8} (h : n = b.toNat) : n.toUInt8 = b := by
  rw [h, Nat.toUInt8_eq, UInt8.ofNat_toNat]

/-- The bytes of a character that is made from a number. -/
theorem encodeChar_ofNat {n : Nat} (h : n < 0xD800 ∨ 0xDFFF < n ∧ n < 0x110000) :
    encodeChar (Char.ofNat n) =
      if n < 0x80 then [n.toUInt8]
      else if n < 0x800 then [(0xC0 + n / 0x40).toUInt8, (0x80 + n % 0x40).toUInt8]
      else if n < 0x10000 then
        [(0xE0 + n / 0x1000).toUInt8, (0x80 + n / 0x40 % 0x40).toUInt8, (0x80 + n % 0x40).toUInt8]
      else
        [(0xF0 + n / 0x40000).toUInt8, (0x80 + n / 0x1000 % 0x40).toUInt8,
          (0x80 + n / 0x40 % 0x40).toUInt8, (0x80 + n % 0x40).toUInt8] := by
  have hnumber : (Char.ofNat n).toNat = n := by
    rw [Char.ofNat, dif_pos h]
    rfl
  rw [encodeChar, hnumber]

/-- Behind the first of two bytes. -/
theorem encodeChar_of_two {b : UInt8} {bytes : Bytes} {c : Char} {parts : List (Option Char)}
    (hlow : 0xC2 ≤ b.toNat) (hhigh : b.toNat < 0xE0)
    (h : partsFrom (.inside 0 (b.toNat - 0xC0) 0x80 0xBF) bytes = some c :: parts) :
    ∃ rest, b :: bytes = encodeChar c ++ rest ∧ partsFrom .start rest = parts := by
  obtain ⟨b1, rest, rfl, hlow1, hhigh1, hc, hrest⟩ := exists_of_partsFrom_inside_zero h
  refine ⟨rest, ?_, hrest⟩
  generalize hn : (b.toNat - 0xC0) * 0x40 + (b1.toNat - 0x80) = n at hc
  have hfirst : 0xC0 + n / 0x40 = b.toNat := by omega
  have hsecond : 0x80 + n % 0x40 = b1.toNat := by omega
  rw [hc, encodeChar_ofNat (n := n) (by omega), if_neg (by omega), if_pos (by omega),
    toUInt8_of_eq hfirst, toUInt8_of_eq hsecond]
  rfl

/-- Behind the first of three bytes. The range of the second leaves out what is shorter in two, and
surrogates. -/
theorem encodeChar_of_three {b : UInt8} {bytes : Bytes} {c : Char} {parts : List (Option Char)}
    {value low high : Nat} (hb : b.toNat = 0xE0 + value) (hvalue : value < 0x10)
    (hlow : 0x80 ≤ low ∧ (value = 0 → 0xA0 ≤ low))
    (hhigh : high ≤ 0xBF ∧ (value = 0xD → high ≤ 0x9F))
    (h : partsFrom (.inside 1 value low high) bytes = some c :: parts) :
    ∃ rest, b :: bytes = encodeChar c ++ rest ∧ partsFrom .start rest = parts := by
  obtain ⟨b1, bytes, rfl, hlow1, hhigh1, hbytes⟩ := exists_of_partsFrom_inside_succ h
  obtain ⟨b2, rest, rfl, hlow2, hhigh2, hc, hrest⟩ := exists_of_partsFrom_inside_zero hbytes
  refine ⟨rest, ?_, hrest⟩
  generalize hn : (value * 0x40 + (b1.toNat - 0x80)) * 0x40 + (b2.toNat - 0x80) = n at hc
  have hfirst : 0xE0 + n / 0x1000 = b.toNat := by omega
  have hsecond : 0x80 + n / 0x40 % 0x40 = b1.toNat := by omega
  have hthird : 0x80 + n % 0x40 = b2.toNat := by omega
  rw [hc, encodeChar_ofNat (n := n) (by omega), if_neg (by omega), if_neg (by omega),
    if_pos (by omega), toUInt8_of_eq hfirst, toUInt8_of_eq hsecond, toUInt8_of_eq hthird]
  rfl

/-- Behind the first of four bytes. The range of the second leaves out what is shorter in three, and
what is no character. -/
theorem encodeChar_of_four {b : UInt8} {bytes : Bytes} {c : Char} {parts : List (Option Char)}
    {value low high : Nat} (hb : b.toNat = 0xF0 + value) (hvalue : value ≤ 4)
    (hlow : 0x80 ≤ low ∧ (value = 0 → 0x90 ≤ low))
    (hhigh : high ≤ 0xBF ∧ (value = 4 → high ≤ 0x8F))
    (h : partsFrom (.inside 2 value low high) bytes = some c :: parts) :
    ∃ rest, b :: bytes = encodeChar c ++ rest ∧ partsFrom .start rest = parts := by
  obtain ⟨b1, bytes, rfl, hlow1, hhigh1, hbytes⟩ := exists_of_partsFrom_inside_succ h
  obtain ⟨b2, bytes, rfl, hlow2, hhigh2, hbytes⟩ := exists_of_partsFrom_inside_succ hbytes
  obtain ⟨b3, rest, rfl, hlow3, hhigh3, hc, hrest⟩ := exists_of_partsFrom_inside_zero hbytes
  refine ⟨rest, ?_, hrest⟩
  generalize hn : ((value * 0x40 + (b1.toNat - 0x80)) * 0x40 + (b2.toNat - 0x80)) * 0x40 +
    (b3.toNat - 0x80) = n at hc
  have hfirst : 0xF0 + n / 0x40000 = b.toNat := by omega
  have hsecond : 0x80 + n / 0x1000 % 0x40 = b1.toNat := by omega
  have hthird : 0x80 + n / 0x40 % 0x40 = b2.toNat := by omega
  have hfourth : 0x80 + n % 0x40 = b3.toNat := by omega
  rw [hc, encodeChar_ofNat (n := n) (by omega), if_neg (by omega), if_neg (by omega),
    if_neg (by omega), toUInt8_of_eq hfirst, toUInt8_of_eq hsecond, toUInt8_of_eq hthird,
    toUInt8_of_eq hfourth]
  rfl

/-- A character is read from its bytes, and the rest from behind them. -/
theorem exists_of_partsFrom_start {bytes : Bytes} {c : Char} {parts : List (Option Char)}
    (h : partsFrom .start bytes = some c :: parts) :
    ∃ rest, bytes = encodeChar c ++ rest ∧ partsFrom .start rest = parts := by
  cases bytes with
  | nil => simp [partsFrom] at h
  | cons b bytes =>
    simp only [partsFrom, step, first] at h
    -- One case for each kind of first byte; those that begin no character give a broken part.
    split_ifs at h with h80 hC2 hE0 heqE0 heqED hF0 heqF0 hF4 heqF4
    · obtain ⟨hc, hparts⟩ := List.cons.inj h
      obtain rfl := Option.some.inj hc
      refine ⟨bytes, ?_, hparts⟩
      rw [encodeChar_ofNat (by omega), if_pos h80, toUInt8_of_eq rfl]
      rfl
    · simp at h
    · exact encodeChar_of_two (by omega) hE0 h
    · exact encodeChar_of_three (by omega) (by decide) (by decide) (by decide) h
    · exact encodeChar_of_three (by omega) (by decide) (by decide) (by decide) h
    · exact encodeChar_of_three (by omega) (by omega) (by omega) (by omega) h
    · exact encodeChar_of_four (by omega) (by decide) (by decide) (by decide) h
    · exact encodeChar_of_four (by omega) (by omega) (by omega) (by omega) h
    · exact encodeChar_of_four (by omega) (by decide) (by decide) (by decide) h
    · simp at h

/-- An unfinished character gives a part, whatever follows. -/
theorem partsFrom_inside_ne_nil (left value low high : Nat) (bytes : Bytes) :
    partsFrom (.inside left value low high) bytes ≠ [] := by
  induction left generalizing value low high bytes with
  | zero =>
    cases bytes with
    | nil => simp [partsFrom]
    | cons b rest =>
      simp only [partsFrom, step]
      split_ifs <;> simp
  | succ left ih =>
    cases bytes with
    | nil => simp [partsFrom]
    | cons b rest =>
      simp only [partsFrom, step]
      split_ifs
      · exact ih _ _ _ _
      · simp

/-- Bytes give a part, if there are any. -/
theorem eq_nil_of_parts_eq_nil {bytes : Bytes} (h : parts bytes = []) : bytes = [] := by
  cases bytes with
  | nil => rfl
  | cons b rest =>
    simp only [parts, partsFrom, step, first] at h
    split_ifs at h <;> simp [partsFrom_inside_ne_nil] at h

/-- The bytes whose parts are the characters of a text are the bytes of that text. -/
theorem encode_of_parts {bytes : Bytes} {text : List Char} (h : parts bytes = text.map some) :
    encode text = bytes := by
  induction text generalizing bytes with
  | nil => exact (eq_nil_of_parts_eq_nil h).symm
  | cons c text ih =>
    obtain ⟨rest, rfl, hrest⟩ := exists_of_partsFrom_start h
    rw [encode_cons, ih hrest]

/-- Parts make a text if none of them is broken. -/
theorem mapM_id_eq_some_iff {parts : List (Option Char)} {text : List Char} :
    parts.mapM id = some text ↔ parts = text.map some := by
  induction parts generalizing text with
  | nil => cases text <;> simp
  | cons part parts ih =>
    cases part with
    | none => cases text <;> simp
    | some c => cases text <;> simp [Option.bind_eq_some_iff, ih, and_assoc, and_comm]

/-- Bytes are read as a text exactly if they are the bytes of that text. -/
theorem decode?_eq_some_iff {bytes : Bytes} {text : List Char} :
    decode? bytes = some text ↔ bytes = encode text := by
  constructor
  · exact fun h => (encode_of_parts (mapM_id_eq_some_iff.mp h)).symm
  · rintro rfl
    exact decode?_encode text

end NetSession.Utf8
