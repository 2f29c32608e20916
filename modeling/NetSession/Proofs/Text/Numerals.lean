import Mathlib.Algebra.Group.Nat.Defs
import Mathlib.Data.List.TakeWhile
import Mathlib.Tactic.SplitIfs
import NetSession.Text.Decimal

/-!
# The texts of a number

`Decimal.read` reads exactly the numerals of the numbers below its bound (`read_eq_ok_iff`): an
optional plus sign and one digit or more, any number of them zeros in front. The bound is looked at
with every digit, but as the value never falls from one digit to the next, only the last time
counts (`readDigits_eq_ok_iff`).

The digits in which a number is written have its value (`digits_render`), and no number but zero is
written with a zero in front (`head?_render_ne_zero`).
-/

namespace NetSession

/-- A digit of a number is that of a number below the base. -/
theorem exists_of_mem_toDigits {base n : Nat} {c : Char} (hbase : 1 < base)
    (h : c ∈ base.toDigits n) : ∃ d, d < base ∧ c = d.digitChar := by
  induction n using Nat.strong_induction_on with
  | _ n ih =>
    rw [Nat.toDigits_eq_if hbase] at h
    split_ifs at h with hlt
    · exact ⟨n, hlt, List.mem_singleton.mp h⟩
    · rcases List.mem_append.mp h with hfront | hlast
      · exact ih _ (Nat.div_lt_self (by omega) hbase) hfront
      · exact ⟨n % base, Nat.mod_lt _ (by omega), List.mem_singleton.mp hlast⟩

/-- A run of characters of a class, and behind it no further one. -/
theorem takeWhile_append_of_head? {p : Char → Bool} {run rest : List Char}
    (hrun : ∀ c ∈ run, p c = true) (hrest : ∀ c ∈ rest.head?, p c = false) :
    (run ++ rest).takeWhile p = run ∧ (run ++ rest).dropWhile p = rest := by
  rw [List.takeWhile_append_of_pos hrun, List.dropWhile_append_of_pos hrun]
  cases rest with
  | nil => exact ⟨List.append_nil run, rfl⟩
  | cons c rest =>
    have hc : ¬ p c = true := by simpa using hrest c rfl
    rw [List.takeWhile_cons_of_neg hc, List.dropWhile_cons_of_neg hc, List.append_nil]
    exact ⟨rfl, rfl⟩

namespace Decimal

/-! ## What is read -/

/-- Digits with the value `n`. -/
structure Digits (n : Nat) (text : List Char) : Prop where
  /-- There is one. -/
  ne_nil : text ≠ []
  /-- There is nothing else. -/
  isDigit : ∀ c ∈ text, c.isDigit = true
  /-- Their value. -/
  value : Nat.ofDigitChars 10 text 0 = n

/-- The texts of the number `n`. -/
inductive Numeral (n : Nat) : List Char → Prop
  /-- Digits. -/
  | plain {digits : List Char} (h : Digits n digits) : Numeral n digits
  /-- Digits behind a plus sign. -/
  | signed {digits : List Char} (h : Digits n digits) : Numeral n ('+' :: digits)

/-- The digits are characters of the ASCII class. -/
theorem toNat_of_isDigit {c : Char} (h : c.isDigit = true) : 0x30 ≤ c.toNat ∧ c.toNat ≤ 0x39 := by
  simp only [Char.isDigit, Bool.and_eq_true, decide_eq_true_eq] at h
  exact h

/-- A digit has its value, and no other character has one. -/
theorem digit?_eq (c : Char) :
    digit? c = if c.isDigit then some (c.toNat - '0'.toNat) else none := by
  have hdigit : c.isDigit = true ↔ '0' ≤ c ∧ c ≤ '9' := by
    simp only [Char.isDigit, Bool.and_eq_true, decide_eq_true_eq]
    exact Iff.rfl
  rw [digit?]
  exact if_congr hdigit.symm rfl rfl

/-- The value does not fall from one digit to the next. -/
theorem le_ofDigitChars (digits : List Char) (value : Nat) :
    value ≤ Nat.ofDigitChars 10 digits value := by
  induction digits generalizing value with
  | nil => exact Nat.le_refl value
  | cons c digits ih =>
    rw [Nat.ofDigitChars_cons]
    calc value ≤ 10 * value + (c.toNat - '0'.toNat) := by omega
      _ ≤ Nat.ofDigitChars 10 digits (10 * value + (c.toNat - '0'.toNat)) := ih _

/-- Digits are read if the value of all of them is below the bound. -/
theorem readDigits_eq_ok_iff {bound value n : Nat} {text : List Char} (hvalue : value < bound) :
    readDigits bound value text = .ok n ↔
      (∀ c ∈ text, c.isDigit = true) ∧ Nat.ofDigitChars 10 text value = n ∧ n < bound := by
  induction text generalizing value with
  | nil =>
    rw [readDigits, Except.ok.injEq, Nat.ofDigitChars_nil]
    constructor
    · rintro rfl
      exact ⟨by simp, rfl, hvalue⟩
    · exact fun h => h.2.1
  | cons c text ih =>
    rw [readDigits, digit?_eq, List.forall_mem_cons, Nat.ofDigitChars_cons, Nat.mul_comm 10]
    by_cases hc : c.isDigit = true
    · rw [if_pos hc]
      dsimp only
      by_cases hlt : value * 10 + (c.toNat - '0'.toNat) < bound
      · rw [if_pos hlt, ih hlt]
        exact ⟨fun ⟨hdigits, h⟩ => ⟨⟨hc, hdigits⟩, h⟩, fun ⟨⟨_, hdigits⟩, h⟩ => ⟨hdigits, h⟩⟩
      · -- What is over the bound now stays over it.
        rw [if_neg hlt]
        refine iff_of_false (by simp) ?_
        rintro ⟨-, rfl, hbound⟩
        exact hlt (Nat.lt_of_le_of_lt (le_ofDigitChars text _) hbound)
    · rw [if_neg hc]
      exact iff_of_false (by simp) fun h => hc h.1.1

/-- A plus sign is no digit. -/
theorem Digits.head_ne_plus {n : Nat} {c : Char} {text : List Char} (h : Digits n (c :: text)) :
    c ≠ '+' := by
  rintro rfl
  exact absurd (h.isDigit '+' List.mem_cons_self) (by decide)

/-- The numerals of the numbers below a bound are what is read. -/
theorem read_eq_ok_iff {bound n : Nat} {text : List Char} (hbound : 0 < bound) :
    read bound text = .ok n ↔ Numeral n text ∧ n < bound := by
  have hdigits {digits : List Char} (hne : digits ≠ []) :
      readDigits bound 0 digits = .ok n ↔ Digits n digits ∧ n < bound := by
    rw [readDigits_eq_ok_iff hbound, ← and_assoc]
    exact and_congr_left fun _ => ⟨fun h => ⟨hne, h.1, h.2⟩, fun h => ⟨h.isDigit, h.value⟩⟩
  unfold read
  split
  · -- There is nothing to read.
    refine iff_of_false (by simp) ?_
    rintro ⟨⟨h⟩ | -, -⟩
    exact h.ne_nil rfl
  · -- There is nothing behind the sign.
    refine iff_of_false (by simp) ?_
    rintro ⟨h | h, -⟩
    · exact h.head_ne_plus rfl
    · exact h.ne_nil rfl
  · next digits hne =>
    rw [hdigits fun hnil => hne (by rw [hnil])]
    refine and_congr_left fun _ => ⟨.signed, fun h => ?_⟩
    cases h with
    | plain h => exact absurd rfl h.head_ne_plus
    | signed h => exact h
  · next hne hsign hplus =>
    rw [hdigits hne]
    refine and_congr_left fun _ => ⟨.plain, fun h => ?_⟩
    cases h with
    | plain h => exact h
    | signed h => exact absurd rfl (hplus _)

/-- A numeral is no empty text. -/
theorem Numeral.ne_nil {n : Nat} {text : List Char} (h : Numeral n text) : text ≠ [] := by
  cases h with
  | plain h => exact h.ne_nil
  | signed h => exact List.cons_ne_nil _ _

/-- The characters of a numeral are a plus sign and digits. -/
theorem Numeral.mem {n : Nat} {text : List Char} (h : Numeral n text) {c : Char} (hc : c ∈ text) :
    c = '+' ∨ c.isDigit = true := by
  cases h with
  | plain h => exact Or.inr (h.isDigit c hc)
  | signed h =>
    rcases List.mem_cons.mp hc with rfl | hc
    · exact Or.inl rfl
    · exact Or.inr (h.isDigit c hc)

/-! ## What is written -/

/-- The digit of a number has that value. -/
theorem digit?_digitChar {d : Nat} (hd : d < 10) : digit? d.digitChar = some d := by
  have hall : ∀ d : Fin 10, digit? d.1.digitChar = some d.1 := by decide
  exact hall ⟨d, hd⟩

/-- A number is written in digits. -/
theorem isDigit_of_mem_render {n : Nat} {c : Char} (h : c ∈ render n) : c.isDigit = true :=
  Nat.isDigit_of_mem_toDigits (by decide) (by decide) h

/-- The digits of a number have its value. -/
theorem digits_render (n : Nat) : Digits n (render n) where
  ne_nil := Nat.toDigits_ne_nil
  isDigit _ := isDigit_of_mem_render
  value := Nat.ofDigitChars_toDigits (by decide) (by decide)

/-- The digits of a number below the bound are read as that number. -/
theorem readDigits_render {bound n : Nat} (hn : n < bound) :
    readDigits bound 0 (render n) = .ok n :=
  (readDigits_eq_ok_iff (Nat.zero_lt_of_lt hn)).mpr
    ⟨(digits_render n).isDigit, (digits_render n).value, hn⟩

/-- Only zero is written with a zero in front. -/
theorem head?_render_ne_zero {n : Nat} (hn : 0 < n) : (render n).head? ≠ some '0' := by
  induction n using Nat.strong_induction_on with
  | _ n ih =>
    unfold render at ih ⊢
    rw [Nat.toDigits_eq_if (by decide)]
    split_ifs with hlt
    · have hdigit := digit?_digitChar hlt
      intro hzero
      rw [Option.some.inj hzero, show digit? '0' = some 0 from rfl] at hdigit
      exact absurd (Option.some.inj hdigit) (Nat.ne_of_lt hn)
    · -- The first digit is that of the tenth.
      have htenth := ih (n / 10) (by omega) (by omega)
      obtain ⟨c, digits, hdigits⟩ := List.exists_cons_of_ne_nil
        (Nat.toDigits_ne_nil (n := n / 10) (b := 10))
      rw [hdigits] at htenth ⊢
      exact htenth

/-- A number below a power of ten takes no more places than that has zeros. -/
theorem length_render_le {n places : Nat} (hplaces : 0 < places) (hn : n < 10 ^ places) :
    (render n).length ≤ places :=
  (Nat.length_toDigits_le_iff (by decide) hplaces).mpr hn

end Decimal

end NetSession
