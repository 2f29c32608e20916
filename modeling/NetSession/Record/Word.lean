import NetSession.Text.Utf8

/-!
# Little-endian words

Numbers as a fixed count of bytes, the lowest first.
-/

namespace NetSession.Word

/-- The lowest `width` bytes of `n`, the lowest first. -/
def toBytes : Nat → Nat → Bytes
  | 0, _ => []
  | width + 1, n => n.toUInt8 :: toBytes width (n / 256)

/-- The number whose bytes are given, the lowest first. -/
def ofBytes : Bytes → Nat
  | [] => 0
  | b :: rest => b.toNat + 256 * ofBytes rest

@[simp]
theorem length_toBytes (width n : Nat) : (toBytes width n).length = width := by
  induction width generalizing n with
  | zero => rfl
  | succ width ih => simp [toBytes, ih]

/-- Reading back gives the number modulo the range of the width. -/
theorem ofBytes_toBytes (width n : Nat) : ofBytes (toBytes width n) = n % Nat.pow 256 width := by
  induction width generalizing n with
  | zero => simp [toBytes, ofBytes, Nat.mod_one]
  | succ width ih =>
    simp only [toBytes, ofBytes, ih]
    rw [show Nat.pow 256 (width + 1) = 256 * Nat.pow 256 width from Nat.mul_comm ..]
    rw [Nat.mod_mul]
    simp

/-- The four bytes of a signed word. -/
def ofInt32 (n : Int32) : Bytes := toBytes 4 n.toUInt32.toNat

/-- The signed word of four bytes. -/
def toInt32 (bytes : Bytes) : Int32 := (ofBytes bytes).toUInt32.toInt32

end NetSession.Word
