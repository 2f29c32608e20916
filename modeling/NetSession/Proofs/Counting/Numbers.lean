import NetSession.Counting
import NetSession.Proofs.Text.Trimming
import NetSession.Proofs.Text.Utf8Forms

/-!
# The numbers of a count

A datagram holds a number (`Holds`) if it is the bytes of a numeral with blanks around it and NULs
behind them. These datagrams are the ones that are counted (`number?_eq_some_iff`), and all but the
last number of 64 bits are answered with the next one (`next?_eq_some_iff`). The datagram of a
number holds it (`holds_datagram`), in 20 bytes at most (`length_datagram_le`).
-/

namespace NetSession.Counting

open Decimal (Numeral bound64)

/-- The bytes that hold the number `n`: one of its numerals, with blanks around it and NULs at the
end. -/
inductive Holds (n : Nat) : Bytes → Prop
  /-- Such bytes. -/
  | intro {before numeral after : List Char} (nuls : Nat)
      (hbefore : ∀ c ∈ before, Text.isBlank c = true) (hnumeral : Numeral n numeral)
      (hafter : ∀ c ∈ after, Text.isBlank c = true) :
      Holds n (Utf8.encode (before ++ numeral ++ after ++ List.replicate nuls '\x00'))

/-! ## What is read -/

/-- No character of a numeral is a blank. -/
theorem isBlank_of_mem_numeral {n : Nat} {numeral : List Char} (h : Numeral n numeral) {c : Char}
    (hc : c ∈ numeral) : Text.isBlank c = false := by
  rcases h.mem hc with rfl | hdigit
  · decide
  · obtain ⟨hlow, hhigh⟩ := Decimal.toNat_of_isDigit hdigit
    exact Text.isBlank_eq_false (by omega) (by omega)

/-- What is trimmed of a text that holds a numeral leaves the numeral. -/
theorem trim_dropTail_of_numeral {n : Nat} {before numeral after : List Char} (nuls : Nat)
    (hbefore : ∀ c ∈ before, Text.isBlank c = true) (hnumeral : Numeral n numeral)
    (hafter : ∀ c ∈ after, Text.isBlank c = true) :
    Text.trim (Text.dropTail (· == '\x00')
      (before ++ numeral ++ after ++ List.replicate nuls '\x00')) = numeral := by
  -- A NUL is no blank, so none stands in front of those at the end.
  have hnul : '\x00' ∉ before ++ numeral ++ after := by
    intro hc
    rcases List.mem_append.mp hc with hc | hc
    · rcases List.mem_append.mp hc with hc | hc
      · exact absurd (hbefore _ hc) (by decide)
      · exact absurd (hnumeral.mem hc) (by decide)
    · exact absurd (hafter _ hc) (by decide)
  rw [Text.dropTail_append_replicate hnul]
  exact Text.trim_append hnumeral.ne_nil hbefore
    (fun c hc => isBlank_of_mem_numeral hnumeral hc) hafter

/-- The numbers of 64 bits are read from the datagrams that hold them, and from no others. -/
theorem number?_eq_some_iff {data : Bytes} {n : Nat} :
    number? data = some n ↔ Holds n data ∧ n < bound64 := by
  have hread {text : List Char} : (Decimal.read bound64 text).toOption = some n ↔
      Numeral n text ∧ n < bound64 := by
    rw [← Decimal.read_eq_ok_iff (by decide)]
    cases Decimal.read bound64 text <;> simp [Except.toOption]
  unfold number?
  rw [Option.bind_eq_bind, Option.bind_eq_some_iff]
  constructor
  · rintro ⟨text, htext, hn⟩
    obtain ⟨hnumeral, hbound⟩ := hread.mp hn
    refine ⟨?_, hbound⟩
    obtain ⟨nuls, hnuls⟩ := Text.exists_dropTail_replicate '\x00' text
    obtain ⟨before, after, htrim, hbefore, hafter⟩ :=
      Text.exists_trim (Text.dropTail (· == '\x00') text)
    rw [Utf8.decode?_eq_some_iff.mp htext, hnuls, htrim]
    exact .intro nuls hbefore hnumeral hafter
  · rintro ⟨⟨nuls, hbefore, hnumeral, hafter⟩, hbound⟩
    refine ⟨_, Utf8.decode?_encode _, hread.mpr ⟨?_, hbound⟩⟩
    rw [trim_dropTail_of_numeral nuls hbefore hnumeral hafter]
    exact hnumeral

/-- A datagram is answered with the next number exactly if it holds one and the next has 64 bits. -/
theorem next?_eq_some_iff {data : Bytes} {m : Nat} :
    next? data = some m ↔ ∃ n, Holds n data ∧ n + 1 < bound64 ∧ m = n + 1 := by
  unfold next?
  rw [Option.bind_eq_bind, Option.bind_eq_some_iff]
  refine exists_congr fun n => ?_
  rw [number?_eq_some_iff, Option.ite_none_right_eq_some, Option.some.injEq]
  constructor
  · rintro ⟨⟨hholds, -⟩, hbound, rfl⟩
    exact ⟨hholds, hbound, rfl⟩
  · rintro ⟨hholds, hbound, rfl⟩
    exact ⟨⟨hholds, Nat.lt_of_succ_lt hbound⟩, hbound, rfl⟩

/-- What a number of 64 bits is answered with. -/
theorem next?_of_holds {data : Bytes} {n : Nat} (h : Holds n data) (hn : n < bound64) :
    next? data = if n + 1 < bound64 then some (n + 1) else none := by
  rw [next?, number?_eq_some_iff.mpr ⟨h, hn⟩]
  rfl

/-! ## What is written -/

/-- The datagram of a number holds it. -/
theorem holds_datagram (n : Nat) : Holds n (datagram n) := by
  have hnumeral : Numeral n (Decimal.render n) := .plain (Decimal.digits_render n)
  have hholds : Holds n (Utf8.encode ([] ++ Decimal.render n ++ [] ++ List.replicate 0 '\x00')) :=
    .intro 0 (by simp) hnumeral (by simp)
  rwa [List.nil_append, List.append_nil, List.replicate_zero, List.append_nil] at hholds

/-- Each digit is one byte. -/
theorem length_encode_of_isDigit {text : List Char} (h : ∀ c ∈ text, c.isDigit = true) :
    (Utf8.encode text).length = text.length := by
  induction text with
  | nil => rfl
  | cons c text ih =>
    obtain ⟨hc, htext⟩ := List.forall_mem_cons.mp h
    have hlow : c.toNat < 0x80 := Nat.lt_of_le_of_lt (Decimal.toNat_of_isDigit hc).2 (by decide)
    rw [Utf8.encode_cons, Utf8.encodeChar_of_lt hlow, List.singleton_append, List.length_cons,
      List.length_cons, ih htext]

/-- A number of 64 bits takes 20 bytes at most. -/
theorem length_datagram_le {n : Nat} (h : n < bound64) : (datagram n).length ≤ 20 := by
  have hdigits : ∀ c ∈ Decimal.render n, c.isDigit = true :=
    fun _ => Decimal.isDigit_of_mem_render
  rw [datagram, length_encode_of_isDigit hdigits]
  exact Decimal.length_render_le (by decide) (Nat.lt_of_lt_of_le h (by decide))

end NetSession.Counting
