/-!
# Blanks

The characters with the Unicode property `White_Space`, and trimming text of them.
-/

namespace NetSession.Text

/-- The characters that count as white space: the property `White_Space` of Unicode. -/
def isBlank (c : Char) : Bool :=
  let n := c.toNat
  (9 ≤ n && n ≤ 13) || n == 0x20 || n == 0x85 || n == 0xA0 || n == 0x1680
    || (0x2000 ≤ n && n ≤ 0x200A) || n == 0x2028 || n == 0x2029 || n == 0x202F || n == 0x205F
    || n == 0x3000

/-- `text` without the longest run at its end in which `p` holds throughout. -/
def dropTail (p : Char → Bool) (text : List Char) : List Char :=
  (text.reverse.dropWhile p).reverse

/-- `text` without the blanks at both ends. -/
def trim (text : List Char) : List Char := dropTail isBlank (text.dropWhile isBlank)

end NetSession.Text
