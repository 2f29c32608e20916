import NetSession.Endpoint.Ipv4
import NetSession.Proofs.Text.Numerals

/-!
# Dotted quads read back

An octet is read up to the first character that is no digit, so an address is read from the head of
a text as long as no digit follows it (`readFirst_render_append`), and a text that is an address and
nothing else is read as that address (`read_render`). A number without a dot behind it starts no
address (`readFirst_eq_none`).
-/

namespace NetSession.Ipv4

/-- An octet is read back. -/
theorem octet?_render (n : UInt8) : octet? (Decimal.render n.toNat) = some n := by
  have hbound : n.toNat < 256 := n.toNat_lt
  have hread := Decimal.readDigits_render hbound
  have hlength : (Decimal.render n.toNat).length ≤ 3 :=
    Decimal.length_render_le (by decide) (by omega)
  unfold octet?
  split
  · next hnil => exact absurd hnil Nat.toDigits_ne_nil
  · next c rest hzero =>
    -- Only the number zero has a zero in front, and nothing behind it.
    have hn : n.toNat = 0 := by
      by_contra hpos
      exact Decimal.head?_render_ne_zero (Nat.pos_of_ne_zero hpos) (by rw [hzero]; rfl)
    rw [hn, show Decimal.render 0 = ['0'] from rfl] at hzero
    exact absurd hzero (by simp)
  · rw [if_pos hlength, hread]
    dsimp only
    rw [Nat.toUInt8_eq, UInt8.ofNat_toNat]

/-- Up to the next character that is no digit, an octet is read back. -/
theorem readOctet_render_append (n : UInt8) {rest : List Char}
    (hrest : ∀ c ∈ rest.head?, c.isDigit = false) :
    readOctet (Decimal.render n.toNat ++ rest) = some (n, rest) := by
  have hdigits : ∀ c ∈ Decimal.render n.toNat, c.isDigit = true :=
    fun _ => Decimal.isDigit_of_mem_render
  obtain ⟨htake, hdrop⟩ := takeWhile_append_of_head? hdigits hrest
  rw [readOctet, htake, hdrop, octet?_render, Option.map_some]

/-- Behind a dot as well. -/
theorem readDotOctet_render_append (n : UInt8) {rest : List Char}
    (hrest : ∀ c ∈ rest.head?, c.isDigit = false) :
    readDotOctet ('.' :: (Decimal.render n.toNat ++ rest)) = some (n, rest) :=
  readOctet_render_append n hrest

/-- An address that no digit follows is read from the head of a text. -/
theorem readFirst_render_append (ip : Ipv4) {rest : List Char}
    (hrest : ∀ c ∈ rest.head?, c.isDigit = false) :
    readFirst (ip.render ++ rest) = some (ip, rest) := by
  have hdot (text : List Char) : ∀ c ∈ ('.' :: text).head?, c.isDigit = false := by
    rintro c hc
    obtain rfl := Option.some.inj hc
    decide
  unfold readFirst render
  simp only [List.append_assoc, List.cons_append]
  rw [readOctet_render_append ip.a (hdot _)]
  simp only [Option.bind_eq_bind, Option.bind_some]
  rw [readDotOctet_render_append ip.b (hdot _)]
  simp only [Option.bind_some]
  rw [readDotOctet_render_append ip.c (hdot _)]
  simp only [Option.bind_some]
  rw [readDotOctet_render_append ip.d hrest]
  rfl

/-- An address is read back. -/
theorem read_render (ip : Ipv4) : read ip.render = some ip := by
  have hfirst : readFirst (ip.render ++ []) = some (ip, []) :=
    ip.readFirst_render_append (by simp)
  rw [List.append_nil] at hfirst
  rw [read, hfirst]

/-- Where no dot follows the digits at the head of a text, no address starts. -/
theorem readFirst_eq_none {text : List Char}
    (h : ∀ c ∈ (text.dropWhile Char.isDigit).head?, c ≠ '.') : readFirst text = none := by
  have hdot : readDotOctet (text.dropWhile Char.isDigit) = none := by
    unfold readDotOctet
    split
    · next rest heq =>
      rw [heq] at h
      exact absurd rfl (h '.' rfl)
    · rfl
  unfold readFirst readOctet
  cases octet? (text.takeWhile Char.isDigit) with
  | none => rfl
  | some a =>
    simp only [Option.map_some, Option.bind_eq_bind, Option.bind_some]
    rw [hdot, Option.bind_none]

/-- An address is written in digits and dots. -/
theorem mem_render {ip : Ipv4} {c : Char} (h : c ∈ ip.render) : c.isDigit = true ∨ c = '.' := by
  simp only [render, List.mem_append, List.mem_cons] at h
  rcases h with ((h | rfl | h) | rfl | h) | rfl | h
  all_goals first | exact Or.inl (Decimal.isDigit_of_mem_render h) | exact Or.inr rfl

end NetSession.Ipv4
