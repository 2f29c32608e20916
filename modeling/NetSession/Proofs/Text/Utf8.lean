import Mathlib.Data.List.TakeWhile
import Mathlib.Tactic.SplitIfs
import NetSession.Text.Utf8

/-!
# Text survives UTF-8

`decode?_encode` shows that the bytes of a text read back as that text. It goes by characters: the
reader takes the bytes of one character from the start state back to the start state and gives that
character (`partsFrom_encodeChar`), whatever follows them.

The other half is about where a character may be cut. A NUL byte stands for the character NUL and
for nothing else, so the bytes before the first NUL are those of the characters before it
(`takeWhile_encode`). `charsWithin` is the longest run of whole characters that a number of bytes
can hold.
-/

namespace NetSession.Utf8

/-! ## Single characters -/

/-- A character's number is that of a scalar value. -/
theorem toNat_scalar (c : Char) :
    c.toNat < 0xD800 ∨ (0xDFFF < c.toNat ∧ c.toNat < 0x110000) := c.valid

/-- The number of a small byte. -/
theorem toNat_byte {n : Nat} (h : n < 256) : n.toUInt8.toNat = n := by
  rw [Nat.toUInt8_eq, UInt8.toNat_ofNat', Nat.mod_eq_of_lt h]

/-- A byte in range that is not the last one owed. -/
theorem partsFrom_inside_succ {left value low high b : Nat} (rest : Bytes) (hb : b < 256)
    (hlow : low ≤ b) (hhigh : b ≤ high) :
    partsFrom (.inside (left + 1) value low high) (b.toUInt8 :: rest) =
      partsFrom (.inside left (value * 0x40 + (b - 0x80)) 0x80 0xBF) rest := by
  simp only [partsFrom, step, toNat_byte hb, if_pos (And.intro hlow hhigh), List.nil_append]

/-- A byte in range that is the last one owed. -/
theorem partsFrom_inside_zero {value low high b : Nat} (rest : Bytes) (hb : b < 256)
    (hlow : low ≤ b) (hhigh : b ≤ high) :
    partsFrom (.inside 0 value low high) (b.toUInt8 :: rest) =
      some (Char.ofNat (value * 0x40 + (b - 0x80))) :: partsFrom .start rest := by
  simp only [partsFrom, step, toNat_byte hb, if_pos (And.intro hlow hhigh), List.cons_append,
    List.nil_append]

/-- A first byte that owes more. -/
theorem partsFrom_start_inside {left value low high b : Nat} (rest : Bytes) (hb : b < 256)
    (h : first b = ([], .inside left value low high)) :
    partsFrom .start (b.toUInt8 :: rest) = partsFrom (.inside left value low high) rest := by
  simp only [partsFrom, step, toNat_byte hb, h, List.nil_append]

/-- The first of two bytes. -/
theorem first_of_two {n : Nat} (h : 0x80 ≤ n) (h' : n < 0x800) :
    first (0xC0 + n / 0x40) = ([], .inside 0 (n / 0x40) 0x80 0xBF) := by
  unfold first
  rw [if_neg (by omega), if_neg (by omega), if_pos (by omega), Nat.add_sub_cancel_left]

/-- The first of three bytes: the second one is in the range that it asks for, which leaves out the
surrogates and what is shorter in two. -/
theorem first_of_three {n : Nat} (h : 0x800 ≤ n) (h' : n < 0x10000)
    (hs : n < 0xD800 ∨ 0xDFFF < n) :
    ∃ low high, first (0xE0 + n / 0x1000) = ([], .inside 1 (n / 0x1000) low high) ∧
      low ≤ 0x80 + n / 0x40 % 0x40 ∧ 0x80 + n / 0x40 % 0x40 ≤ high := by
  unfold first
  rw [if_neg (by omega), if_neg (by omega), if_neg (by omega)]
  -- After `0xE0` and `0xED` fewer bytes may follow.
  split_ifs with h0 hD h1
  · exact ⟨0xA0, 0xBF, by rw [show n / 0x1000 = 0 by omega], by omega, by omega⟩
  · exact ⟨0x80, 0x9F, by rw [show n / 0x1000 = 0xD by omega], by omega, by omega⟩
  · exact ⟨0x80, 0xBF, by rw [Nat.add_sub_cancel_left], by omega, by omega⟩
  all_goals omega

/-- The first of four bytes: the second one is in the range that it asks for, which leaves out what
is shorter in three and what is no character. -/
theorem first_of_four {n : Nat} (h : 0x10000 ≤ n) (h' : n < 0x110000) :
    ∃ low high, first (0xF0 + n / 0x40000) = ([], .inside 2 (n / 0x40000) low high) ∧
      low ≤ 0x80 + n / 0x1000 % 0x40 ∧ 0x80 + n / 0x1000 % 0x40 ≤ high := by
  unfold first
  rw [if_neg (by omega), if_neg (by omega), if_neg (by omega), if_neg (by omega),
    if_neg (by omega), if_neg (by omega)]
  -- After `0xF0` and `0xF4` fewer bytes may follow.
  split_ifs with h0 h3 h4
  · exact ⟨0x90, 0xBF, by rw [show n / 0x40000 = 0 by omega], by omega, by omega⟩
  · exact ⟨0x80, 0xBF, by rw [Nat.add_sub_cancel_left], by omega, by omega⟩
  · exact ⟨0x80, 0x8F, by rw [show n / 0x40000 = 4 by omega], by omega, by omega⟩
  · omega

/-- The bytes of a character give that character, and leave the reader between characters. -/
theorem partsFrom_encodeChar (c : Char) (rest : Bytes) :
    partsFrom .start (encodeChar c ++ rest) = some c :: partsFrom .start rest := by
  have hc := toNat_scalar c
  have hback : Char.ofNat c.toNat = c := Char.ofNat_toNat c
  unfold encodeChar
  dsimp only
  generalize c.toNat = n at hc hback
  -- One case for each number of bytes; the digits are put together again by `omega`.
  split_ifs with h1 h2 h3
  · simp only [List.cons_append, List.nil_append, partsFrom, step,
      toNat_byte (show n < 256 by omega), first, if_pos h1, hback]
  · rw [List.cons_append, List.cons_append, List.nil_append,
      partsFrom_start_inside _ (by omega) (first_of_two (by omega) h2),
      partsFrom_inside_zero _ (by omega) (by omega) (by omega),
      show n / 0x40 * 0x40 + (0x80 + n % 0x40 - 0x80) = n by omega, hback]
  · obtain ⟨low, high, hfirst, hlow, hhigh⟩ := first_of_three (by omega) h3 (by omega)
    rw [List.cons_append, List.cons_append, List.cons_append, List.nil_append,
      partsFrom_start_inside _ (by omega) hfirst,
      partsFrom_inside_succ _ (by omega) hlow hhigh,
      partsFrom_inside_zero _ (by omega) (by omega) (by omega),
      show (n / 0x1000 * 0x40 + (0x80 + n / 0x40 % 0x40 - 0x80)) * 0x40
        + (0x80 + n % 0x40 - 0x80) = n by omega, hback]
  · obtain ⟨low, high, hfirst, hlow, hhigh⟩ := first_of_four (n := n) (by omega) (by omega)
    rw [List.cons_append, List.cons_append, List.cons_append, List.cons_append, List.nil_append,
      partsFrom_start_inside _ (by omega) hfirst,
      partsFrom_inside_succ _ (by omega) hlow hhigh,
      partsFrom_inside_succ _ (by omega) (by omega) (by omega),
      partsFrom_inside_zero _ (by omega) (by omega) (by omega),
      show ((n / 0x40000 * 0x40 + (0x80 + n / 0x1000 % 0x40 - 0x80)) * 0x40
        + (0x80 + n / 0x40 % 0x40 - 0x80)) * 0x40 + (0x80 + n % 0x40 - 0x80) = n by omega, hback]

/-! ## Whole texts -/

@[simp]
theorem encode_nil : encode [] = [] := rfl

@[simp]
theorem encode_cons (c : Char) (text : List Char) :
    encode (c :: text) = encodeChar c ++ encode text := rfl

@[simp]
theorem encode_append (a b : List Char) : encode (a ++ b) = encode a ++ encode b :=
  List.flatMap_append

/-- The parts of a text's bytes are its characters. -/
theorem parts_encode (text : List Char) : parts (encode text) = text.map some := by
  unfold parts
  induction text with
  | nil => rfl
  | cons c text ih => rw [encode_cons, partsFrom_encodeChar, ih, List.map_cons]

/-- The bytes of a text read back as that text. -/
theorem decode?_encode (text : List Char) : decode? (encode text) = some text := by
  rw [decode?, parts_encode]
  induction text with
  | nil => rfl
  | cons c text ih => simp [ih]

/-- Texts with the same bytes are the same. -/
theorem encode_injective : Function.Injective encode := fun a b h => by
  have hback := decode?_encode b
  rw [← h, decode?_encode] at hback
  exact Option.some.inj hback

/-- The bytes of a text hold that string. -/
theorem string?_encode (text : List Char) : string? (encode text) = some (String.ofList text) := by
  rw [string?, decode?_encode, Option.map_some]

/-! ## Where characters begin and end -/

/-- A character's bytes are one that may begin a character, and then only such as continue one. -/
theorem exists_encodeChar (c : Char) :
    ∃ b tail, encodeChar c = b :: tail ∧ (b.toNat < 0x80 ∨ 0xC0 ≤ b.toNat ∧ b.toNat < 0xF8) ∧
      ∀ x ∈ tail, 0x80 ≤ x.toNat ∧ x.toNat < 0xC0 := by
  have hc := toNat_scalar c
  unfold encodeChar
  dsimp only
  generalize c.toNat = n at hc
  have tail (m : Nat) :
      0x80 ≤ (0x80 + m % 0x40).toUInt8.toNat ∧ (0x80 + m % 0x40).toUInt8.toNat < 0xC0 := by
    rw [toNat_byte (by omega)]
    omega
  split_ifs with h1 h2 h3
  · refine ⟨_, _, rfl, Or.inl ?_, by simp⟩
    rw [toNat_byte (by omega)]
    exact h1
  · refine ⟨_, _, rfl, Or.inr ?_, List.forall_mem_singleton.mpr (tail n)⟩
    rw [toNat_byte (by omega)]
    omega
  · refine ⟨_, _, rfl, Or.inr ?_, ?_⟩
    · rw [toNat_byte (by omega)]
      omega
    · exact List.forall_mem_cons.mpr ⟨tail _, List.forall_mem_singleton.mpr (tail n)⟩
  · refine ⟨_, _, rfl, Or.inr ?_, ?_⟩
    · rw [toNat_byte (by omega)]
      omega
    · exact List.forall_mem_cons.mpr
        ⟨tail _, List.forall_mem_cons.mpr ⟨tail _, List.forall_mem_singleton.mpr (tail n)⟩⟩

/-- A character has one to four bytes. -/
theorem length_encodeChar (c : Char) :
    1 ≤ (encodeChar c).length ∧ (encodeChar c).length ≤ 4 := by
  unfold encodeChar
  dsimp only
  split_ifs <;> simp

/-- A character below `0x80` has one byte, its number. -/
theorem encodeChar_of_lt {c : Char} (h : c.toNat < 0x80) : encodeChar c = [c.toNat.toUInt8] :=
  if_pos h

/-- Any other character has no byte below `0x80`. -/
theorem le_of_mem_encodeChar {c : Char} (h : 0x80 ≤ c.toNat) {x : UInt8} (hx : x ∈ encodeChar c) :
    0x80 ≤ x.toNat := by
  obtain ⟨b, tail, hc, hb, htail⟩ := exists_encodeChar c
  have hscalar := toNat_scalar c
  have hfirst : (encodeChar c).head? = some b := by rw [hc]; rfl
  rw [hc] at hx
  obtain rfl | hx := List.mem_cons.mp hx
  · unfold encodeChar at hfirst
    dsimp only at hfirst
    generalize c.toNat = n at h hscalar hfirst
    rw [if_neg (by omega)] at hfirst
    split_ifs at hfirst
    all_goals
      obtain rfl := Option.some.inj hfirst
      rw [toNat_byte (by omega)]
      omega
  · exact (htail x hx).1

/-- The bytes of a character other than NUL hold no NUL. -/
theorem zero_notMem_encodeChar {c : Char} (hc : c ≠ '\x00') : 0 ∉ encodeChar c := by
  intro h0
  have hn : c.toNat ≠ 0 := fun h => hc (Char.toNat_inj.mp h)
  rcases Nat.lt_or_ge c.toNat 0x80 with hlt | hge
  · rw [encodeChar_of_lt hlt, List.mem_singleton] at h0
    have hbyte := congrArg UInt8.toNat h0
    rw [toNat_byte (by omega), UInt8.toNat_zero] at hbyte
    exact hn hbyte.symm
  · have hbyte := le_of_mem_encodeChar hge h0
    rw [UInt8.toNat_zero] at hbyte
    omega

/-- A text without the character NUL has no NUL byte. -/
theorem zero_notMem_encode {text : List Char} (h : '\x00' ∉ text) : 0 ∉ encode text := by
  intro h0
  obtain ⟨c, hc, hbyte⟩ := List.mem_flatMap.mp h0
  exact zero_notMem_encodeChar (fun e => h (e ▸ hc)) hbyte

/-- A text has a NUL byte exactly if it has the character NUL. -/
theorem zero_mem_encode_iff {text : List Char} : 0 ∈ encode text ↔ '\x00' ∈ text := by
  refine ⟨fun h0 => ?_, fun hc => List.mem_flatMap.mpr ⟨_, hc, by decide⟩⟩
  by_contra hc
  exact zero_notMem_encode hc h0

/-- The characters before the first NUL. -/
def untilNul (text : List Char) : List Char := text.takeWhile (· != '\x00')

/-- There is no NUL before the first one. -/
theorem nul_notMem_untilNul (text : List Char) : '\x00' ∉ untilNul text := fun h => by
  simpa using List.mem_takeWhile_imp h

/-- A text without NULs is kept whole. -/
theorem untilNul_of_notMem {text : List Char} (h : '\x00' ∉ text) : untilNul text = text :=
  List.takeWhile_eq_self_iff.mpr fun c hc => by simpa using fun e : c = '\x00' => h (e ▸ hc)

/-- The bytes before the first NUL are those of the characters before the first NUL. -/
theorem takeWhile_encode (text : List Char) :
    (encode text).takeWhile (· != 0) = encode (untilNul text) := by
  induction text with
  | nil => rfl
  | cons c text ih =>
    rw [untilNul]
    by_cases hc : c = '\x00'
    · subst hc
      rfl
    · have hbytes : ∀ x ∈ encodeChar c, (x != 0) = true := fun x hx => by
        simpa using fun e : x = 0 => zero_notMem_encodeChar hc (e ▸ hx)
      rw [encode_cons, List.takeWhile_append_of_pos hbytes, ih,
        List.takeWhile_cons_of_pos (by simpa using hc), encode_cons, untilNul]

/-- The longest run of characters at the start of a text whose bytes are at most `room` many. -/
def charsWithin : Nat → List Char → List Char
  | _, [] => []
  | room, c :: text =>
    if (encodeChar c).length ≤ room then
      c :: charsWithin (room - (encodeChar c).length) text
    else []

/-- What is within a room is at the start of the text. -/
theorem charsWithin_isPrefix (room : Nat) (text : List Char) : charsWithin room text <+: text := by
  induction text generalizing room with
  | nil => exact List.nil_prefix
  | cons c text ih =>
    rw [charsWithin]
    split_ifs with h
    · exact (List.prefix_cons_inj c).mpr (ih _)
    · exact List.nil_prefix

/-- What is within a room takes no more than that. -/
theorem length_encode_charsWithin_le (room : Nat) (text : List Char) :
    (encode (charsWithin room text)).length ≤ room := by
  induction text generalizing room with
  | nil => exact Nat.zero_le _
  | cons c text ih =>
    rw [charsWithin]
    split_ifs with h
    · have := ih (room - (encodeChar c).length)
      rw [encode_cons, List.length_append]
      omega
    · exact Nat.zero_le _

/-- Whatever is at the start of a text and takes no more than the room is within it. -/
theorem isPrefix_charsWithin {room : Nat} {text start : List Char} (hstart : start <+: text)
    (hroom : (encode start).length ≤ room) : start <+: charsWithin room text := by
  induction text generalizing room start with
  | nil => exact hstart
  | cons c text ih =>
    cases start with
    | nil => exact List.nil_prefix
    | cons d start =>
      obtain ⟨rfl, hrest⟩ := List.cons_prefix_cons.mp hstart
      rw [encode_cons, List.length_append] at hroom
      rw [charsWithin, if_pos (by omega)]
      exact List.cons_prefix_cons.mpr ⟨rfl, ih hrest (by omega)⟩

/-- A text that takes no more than the room is within it whole. -/
theorem charsWithin_of_length_le {room : Nat} {text : List Char}
    (h : (encode text).length ≤ room) : charsWithin room text = text := by
  induction text generalizing room with
  | nil => rfl
  | cons c text ih =>
    rw [encode_cons, List.length_append] at h
    rw [charsWithin, if_pos (by omega), ih (by omega)]

end NetSession.Utf8
