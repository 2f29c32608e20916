import NetSession.Endpoint.Basic
import NetSession.Proofs.Endpoint.Groups
import NetSession.Proofs.Text.Trimming

/-!
# The texts of an endpoint

Which texts are read as an IPv6 endpoint (`read_v6_grammar`): what stands before the last colon may
have any number of brackets around the address, also none, and blanks before the colon. So an
address without a port can be read as another one with a port, if what is before its last group is
an address too. That happens to shortened addresses only: one that is written in full has seven
colons, or six and a dotted quad (`Ipv6.chars_and_colons_of_read`), and one colon less makes no
address.
-/

namespace NetSession

/-! ## Dotted quads -/

namespace Ipv4

/-- An octet is read from digits. -/
theorem exists_of_readOctet {text rest : List Char} {octet : UInt8}
    (h : readOctet text = some (octet, rest)) :
    ∃ digits, text = digits ++ rest ∧ ∀ c ∈ digits, c.isDigit = true := by
  obtain ⟨_, -, heq⟩ := Option.map_eq_some_iff.mp h
  obtain ⟨rfl, rfl⟩ := Prod.mk.inj heq
  exact ⟨text.takeWhile Char.isDigit, List.takeWhile_append_dropWhile.symm,
    fun c hc => List.mem_takeWhile_imp hc⟩

/-- Behind a dot as well. -/
theorem exists_of_readDotOctet {text rest : List Char} {octet : UInt8}
    (h : readDotOctet text = some (octet, rest)) :
    ∃ digits, text = '.' :: digits ++ rest ∧ ∀ c ∈ digits, c.isDigit = true := by
  unfold readDotOctet at h
  split at h
  · obtain ⟨digits, rfl, hdigits⟩ := exists_of_readOctet h
    exact ⟨digits, rfl, hdigits⟩
  · exact absurd h (by simp)

/-- An address is read from digits and dots. -/
theorem exists_of_readFirst {text rest : List Char} {ip : Ipv4}
    (h : readFirst text = some (ip, rest)) :
    ∃ quad, text = quad ++ rest ∧ '.' ∈ quad ∧ ∀ c ∈ quad, c.isDigit = true ∨ c = '.' := by
  simp only [readFirst, Option.bind_eq_bind, Option.bind_eq_some_iff, Prod.exists] at h
  obtain ⟨a, behindA, ha, b, behindB, hb, c, behindC, hc, d, behindD, hd, heq⟩ := h
  obtain ⟨-, rfl⟩ := Prod.mk.inj (Option.some.inj heq)
  obtain ⟨first, rfl, hfirst⟩ := exists_of_readOctet ha
  obtain ⟨second, rfl, hsecond⟩ := exists_of_readDotOctet hb
  obtain ⟨third, rfl, hthird⟩ := exists_of_readDotOctet hc
  obtain ⟨fourth, rfl, hfourth⟩ := exists_of_readDotOctet hd
  refine ⟨first ++ '.' :: second ++ '.' :: third ++ '.' :: fourth, by simp, by simp, ?_⟩
  intro x hx
  simp only [List.mem_append, List.mem_cons] at hx
  rcases hx with ((hx | rfl | hx) | rfl | hx) | rfl | hx
  · exact Or.inl (hfirst x hx)
  · exact Or.inr rfl
  · exact Or.inl (hsecond x hx)
  · exact Or.inr rfl
  · exact Or.inl (hthird x hx)
  · exact Or.inr rfl
  · exact Or.inl (hfourth x hx)

end Ipv4

/-! ## Runs of groups -/

namespace Ipv6

/-- A group is read from hexadecimal digits. -/
theorem exists_of_readGroup {text rest : List Char} {group : UInt16}
    (h : readGroup text = some (group, rest)) :
    ∃ digits, text = digits ++ rest ∧ ∀ c ∈ digits, (hexDigit? c).isSome = true := by
  unfold readGroup at h
  dsimp only at h
  split_ifs at h
  obtain ⟨-, hrest⟩ := Prod.mk.inj (Option.some.inj h)
  have hdigits : ∀ c ∈ text.takeWhile fun c => (hexDigit? c).isSome, (hexDigit? c).isSome = true :=
    fun c hc => List.mem_takeWhile_imp (p := fun c => (hexDigit? c).isSome) hc
  obtain ⟨behind, hsplit⟩ := List.takeWhile_prefix (fun c => (hexDigit? c).isSome) (l := text)
  generalize (text.takeWhile fun c => (hexDigit? c).isSome) = digits at hrest hdigits hsplit
  rw [← hsplit, List.drop_left] at hrest
  exact ⟨digits, hrest ▸ hsplit.symm, hdigits⟩

/-- The colon before a group, if it is not the first. -/
def separator (first : Bool) : List Char := if first then [] else [':']

/-- What follows the colon before a group. -/
theorem eq_of_afterSeparator {first : Bool} {text after : List Char}
    (h : afterSeparator first text = some after) : text = separator first ++ after := by
  unfold afterSeparator at h
  cases first with
  | true => exact Option.some.inj h
  | false =>
    rw [if_neg (by decide)] at h
    split at h
    · rw [Option.some.inj h]
      rfl
    · exact absurd h (by simp)

/-- The part of a text that a run of groups was read from. -/
structure ReadFrom (first : Bool) (run : List Char) (read : Groups) : Prop where
  /-- It is written as an address is. -/
  chars : ∀ c ∈ run, isAddressChar c = true
  /-- A dotted quad is told by its dots. -/
  dotted : read.dotted = true ↔ '.' ∈ run
  /-- There is a colon before each group but the first. A dotted quad counts for two groups and has
  none in it. -/
  colons : run.count ':' + (if first = true ∧ read.groups ≠ [] then 1 else 0)
    + (if read.dotted = true then 1 else 0) = read.groups.length

/-- Nothing is read from nothing. -/
theorem ReadFrom.nil (first : Bool) (rest : List Char) : ReadFrom first [] ⟨[], false, rest⟩ where
  chars := by simp
  dotted := by simp
  colons := by simp

/-- Neither a colon nor a dot is a digit of a group. -/
theorem not_mem_digits {digits : List Char} (h : ∀ c ∈ digits, (hexDigit? c).isSome = true) :
    ':' ∉ digits ∧ '.' ∉ digits :=
  ⟨fun hc => absurd (h _ hc) (by decide), fun hc => absurd (h _ hc) (by decide)⟩

/-- A dotted quad ends a run. -/
theorem ReadFrom.quad (first : Bool) {quad : List Char} (hdot : '.' ∈ quad)
    (hquad : ∀ c ∈ quad, c.isDigit = true ∨ c = '.') (high low : UInt16) (rest : List Char) :
    ReadFrom first (separator first ++ quad) ⟨[high, low], true, rest⟩ where
  chars c hc := by
    rcases List.mem_append.mp hc with hsep | hc
    · cases first <;> simp_all [separator, isAddressChar]
    · rcases hquad c hc with hdigit | rfl
      · exact isAddressChar_of_isDigit hdigit
      · decide
  dotted := iff_of_true rfl (List.mem_append_right _ hdot)
  colons := by
    have hcolon : ':' ∉ quad := fun hc => absurd (hquad _ hc) (by decide)
    rw [List.count_append, List.count_eq_zero.mpr hcolon]
    cases first <;> rfl

/-- A group goes before a run. -/
theorem ReadFrom.group (first : Bool) {digits run : List Char} {more : Groups}
    (hdigits : ∀ c ∈ digits, (hexDigit? c).isSome = true) (group : UInt16)
    (hmore : ReadFrom false run more) :
    ReadFrom first (separator first ++ digits ++ run)
      ⟨group :: more.groups, more.dotted, more.rest⟩ where
  chars c hc := by
    rcases List.mem_append.mp hc with hc | hc
    · rcases List.mem_append.mp hc with hsep | hc
      · cases first <;> simp_all [separator, isAddressChar]
      · simp [isAddressChar, hdigits c hc]
    · exact hmore.chars c hc
  dotted := by
    have hsep : '.' ∉ separator first := by cases first <;> decide
    rw [hmore.dotted, List.mem_append, List.mem_append]
    simp [hsep, (not_mem_digits hdigits).2]
  colons := by
    have hcolons := hmore.colons
    rw [List.count_append, List.count_append, List.count_eq_zero.mpr (not_mem_digits hdigits).1,
      List.length_cons, ← hcolons]
    cases first <;> simp [separator] <;> omega

/-- A run of groups is read from the head of a text. -/
theorem exists_readFrom (first : Bool) (room : Nat) (text : List Char) :
    ∃ run, text = run ++ (readGroups first room text).rest ∧
      ReadFrom first run (readGroups first room text) := by
  induction room generalizing first text with
  | zero => exact ⟨[], rfl, .nil first text⟩
  | succ room ih =>
    rw [readGroups]
    dsimp only
    split
    · next ip rest hquad =>
      obtain ⟨-, hquad⟩ := Option.ite_none_left_eq_some.mp hquad
      obtain ⟨after, hafter, hfirst⟩ := Option.bind_eq_some_iff.mp hquad
      obtain ⟨quad, rfl, hdot, hchars⟩ := Ipv4.exists_of_readFirst hfirst
      refine ⟨separator first ++ quad, ?_, .quad first hdot hchars _ _ rest⟩
      rw [eq_of_afterSeparator hafter, List.append_assoc]
    · split
      · exact ⟨[], rfl, .nil first text⟩
      · next group rest hgroup =>
        obtain ⟨after, hafter, hread⟩ := Option.bind_eq_some_iff.mp hgroup
        obtain ⟨digits, rfl, hdigits⟩ := exists_of_readGroup hread
        obtain ⟨run, hrun, hmore⟩ := ih false rest
        refine ⟨separator first ++ digits ++ run, ?_, .group first hdigits group hmore⟩
        rw [eq_of_afterSeparator hafter, List.append_assoc, List.append_assoc, ← hrun]

/-- An address is written in its characters, and is either shortened with two colons or has all
eight groups, so that there are seven colons, or six and a dotted quad. -/
theorem chars_and_colons_of_read {text : List Char} {ip : Ipv6} (h : read text = some ip) :
    (∀ c ∈ text, isAddressChar c = true) ∧
      ([':', ':'] <:+: text ∨ text.count ':' + (if '.' ∈ text then 1 else 0) = 7) := by
  obtain ⟨run, hrun, hhead⟩ := exists_readFrom true 8 text
  unfold read at h
  dsimp only at h
  split_ifs at h with hwhole hnothing hdotted
  · -- All eight groups are read at once.
    rw [hnothing, List.append_nil] at hrun
    have hne : (readGroups true 8 text).groups ≠ [] := by
      intro hnil
      rw [hnil] at hwhole
      exact absurd hwhole (by decide)
    have hcolons := hhead.colons
    rw [if_pos ⟨rfl, hne⟩, hwhole, if_congr hhead.dotted rfl rfl, ← hrun] at hcolons
    exact ⟨hrun ▸ hhead.chars, Or.inr (by omega)⟩
  · -- Two colons stand for the groups that are missing.
    split at h
    · next behind hbehind =>
      split_ifs at h with hend
      obtain ⟨tail, htail, hread⟩ :=
        exists_readFrom true (7 - (readGroups true 8 text).groups.length) behind
      rw [hend, List.append_nil] at htail
      rw [hbehind] at hrun
      refine ⟨?_, Or.inl ⟨run, behind, by rw [hrun]; simp⟩⟩
      rw [hrun]
      intro c hc
      rcases List.mem_append.mp hc with hc | hc
      · exact hhead.chars c hc
      · rcases List.mem_cons.mp hc with rfl | hc
        · decide
        · rcases List.mem_cons.mp hc with rfl | hc
          · decide
          · exact hread.chars c (htail ▸ hc)
    · exact absurd h (by simp)

/-- An address has two colons or more. -/
theorem two_le_colons_of_read {text : List Char} {ip : Ipv6} (h : read text = some ip) :
    2 ≤ text.count ':' := by
  rcases (chars_and_colons_of_read h).2 with hshort | hcolons
  · exact hshort.sublist.count_le ':'
  · split_ifs at hcolons <;> omega

end Ipv6

/-! ## Blanks and brackets around an address -/

namespace Ipv6

/-- The digits of a group are visible characters. -/
theorem visible_of_hexDigit? {c : Char} (h : (hexDigit? c).isSome = true) :
    0x20 < c.toNat ∧ c.toNat < 0x80 := by
  have hvalue (low high : Char) (hc : low ≤ c ∧ c ≤ high) :
      low.toNat ≤ c.toNat ∧ c.toNat ≤ high.toNat := hc
  unfold hexDigit? at h
  split_ifs at h with hdigit hlower hupper
  · have hrange : 48 ≤ c.toNat ∧ c.toNat ≤ 57 := hvalue '0' '9' hdigit
    omega
  · have hrange : 97 ≤ c.toNat ∧ c.toNat ≤ 102 := hvalue 'a' 'f' hlower
    omega
  · have hrange : 65 ≤ c.toNat ∧ c.toNat ≤ 70 := hvalue 'A' 'F' hupper
    omega
  · exact absurd h (by decide)

/-- No character of an address is a blank. -/
theorem isBlank_of_isAddressChar {c : Char} (h : isAddressChar c = true) :
    Text.isBlank c = false := by
  simp only [isAddressChar, Bool.or_eq_true, beq_iff_eq] at h
  rcases h with (hdigit | rfl) | rfl
  · obtain ⟨hlow, hhigh⟩ := visible_of_hexDigit? hdigit
    exact Text.isBlank_eq_false hlow hhigh
  · decide
  · decide

/-- Brackets around an address are taken off, as many as there are. -/
theorem bare_eq {address : List Char} (hne : address ≠ [])
    (hchars : ∀ c ∈ address, isAddressChar c = true) (opening closing : Nat) :
    Text.dropTail (· == ']') ((List.replicate opening '[' ++ address ++
      List.replicate closing ']').dropWhile (· == '[')) = address := by
  have hrun : ∀ c ∈ List.replicate opening '[', (c == '[') = true :=
    fun c hc => beq_iff_eq.mpr (List.eq_of_mem_replicate hc)
  have hhead : ∀ c ∈ (address ++ List.replicate closing ']').head?, (c == '[') = false := by
    obtain ⟨first, rest, rfl⟩ := List.exists_cons_of_ne_nil hne
    rintro c hc
    obtain rfl := Option.some.inj hc
    refine beq_false_of_ne ?_
    rintro rfl
    exact absurd (hchars '[' List.mem_cons_self) (by decide)
  have hclosing : ']' ∉ address := fun hc => absurd (hchars ']' hc) (by decide)
  rw [List.append_assoc, (takeWhile_append_of_head? hrun hhead).2,
    Text.dropTail_append_replicate hclosing]

/-- Nothing but brackets is taken off. -/
theorem exists_brackets (text : List Char) : ∃ opening closing,
    text = List.replicate opening '[' ++
      Text.dropTail (· == ']') (text.dropWhile (· == '[')) ++ List.replicate closing ']' := by
  obtain ⟨closing, hclosing⟩ := Text.exists_dropTail_replicate ']' (text.dropWhile (· == '['))
  have hopening : text.takeWhile (· == '[') =
      List.replicate (text.takeWhile (· == '[')).length '[' :=
    List.eq_replicate_iff.mpr ⟨rfl, fun c hc => by simpa using List.mem_takeWhile_imp hc⟩
  refine ⟨(text.takeWhile (· == '[')).length, closing, ?_⟩
  rw [← hopening, List.append_assoc, ← hclosing, List.takeWhile_append_dropWhile]

end Ipv6

namespace Endpoint

/-- A text is read as an IPv6 address exactly if it is one between any number of brackets, apart
from the blanks around it. -/
theorem readIp_eq_v6_iff {text : List Char} {ip : Ipv6} :
    readIp text = some (.v6 ip) ↔ ∃ opening closing address,
      Text.trim text = List.replicate opening '[' ++ address ++ List.replicate closing ']' ∧
      Ipv6.read address = some ip := by
  constructor
  · intro h
    unfold readIp at h
    dsimp only at h
    split_ifs at h with hcolon
    · obtain ⟨address, hread, hip⟩ := Option.map_eq_some_iff.mp h
      obtain rfl := Ip.v6.inj hip
      obtain ⟨opening, closing, htext⟩ := Ipv6.exists_brackets (Text.trim text)
      exact ⟨opening, closing, _, htext, hread⟩
    · obtain ⟨address, -, hip⟩ := Option.map_eq_some_iff.mp h
      exact absurd hip (by simp)
  · rintro ⟨opening, closing, address, htext, hread⟩
    obtain ⟨hchars, -⟩ := Ipv6.chars_and_colons_of_read hread
    have hcolon : ':' ∈ address :=
      List.count_pos_iff.mp (Nat.lt_of_lt_of_le (by decide) (Ipv6.two_le_colons_of_read hread))
    unfold readIp
    dsimp only
    rw [htext, if_pos (List.mem_append_left _ (List.mem_append_right _ hcolon)),
      Ipv6.bare_eq (List.ne_nil_of_mem hcolon) hchars, hread, Option.map_some]

/-- A text that is read as an IPv4 address has no colon, apart from the blanks around it. -/
theorem colon_notMem_of_readIp {text : List Char} {ip : Ipv4} (h : readIp text = some (.v4 ip)) :
    ':' ∉ Text.trim text := by
  unfold readIp at h
  dsimp only at h
  split_ifs at h with hcolon
  · obtain ⟨address, -, hip⟩ := Option.map_eq_some_iff.mp h
    exact absurd hip (by simp)
  · exact hcolon

/-! ## The last colon -/

/-- The last colon is the one that no colon follows. -/
theorem splitLastColon_append {front behind : List Char} (h : ':' ∉ behind) :
    splitLastColon (front ++ ':' :: behind) = some (front, behind) := by
  have hrun : ∀ c ∈ behind.reverse, (c != ':') = true := by
    rintro c hc
    refine bne_iff_ne.mpr fun heq => h ?_
    rw [← heq]
    exact List.mem_reverse.mp hc
  have hstop : ∀ c ∈ (':' :: front.reverse).head?, (c != ':') = false := by
    rintro c hc
    obtain rfl := Option.some.inj hc
    decide
  have htake := (takeWhile_append_of_head? hrun hstop).1
  have hreverse : (front ++ ':' :: behind).reverse = behind.reverse ++ ':' :: front.reverse := by
    simp only [List.reverse_append, List.reverse_cons, List.append_assoc, List.singleton_append]
  have hcolon : ':' ∈ front ++ ':' :: behind := List.mem_append_right _ List.mem_cons_self
  have hlength : (front ++ ':' :: behind).length - behind.length - 1 = front.length := by
    rw [List.length_append, List.length_cons]
    omega
  unfold splitLastColon
  dsimp only
  rw [if_pos hcolon, hreverse, htake, List.reverse_reverse, hlength, List.take_left]

/-- The parts of a text are those around its last colon. -/
theorem splitLastColon_eq_some_iff {text front behind : List Char} :
    splitLastColon text = some (front, behind) ↔ text = front ++ ':' :: behind ∧ ':' ∉ behind := by
  constructor
  · intro h
    have hcolon : ':' ∈ text.reverse := by
      unfold splitLastColon at h
      dsimp only at h
      split_ifs at h with hcolon
      exact List.mem_reverse.mpr hcolon
    obtain ⟨last, rest, hsplit, hlast⟩ := List.eq_append_cons_of_mem hcolon
    have htext : text = rest.reverse ++ ':' :: last.reverse := by
      rw [← text.reverse_reverse, hsplit]
      simp
    have hbehind : ':' ∉ last.reverse := fun hc => hlast (List.mem_reverse.mp hc)
    rw [htext, splitLastColon_append hbehind] at h
    obtain ⟨rfl, rfl⟩ := Prod.mk.inj (Option.some.inj h)
    exact ⟨htext, hbehind⟩
  · rintro ⟨rfl, hbehind⟩
    exact splitLastColon_append hbehind

/-- A text is read as an endpoint if it is an address and a port, with the last colon between
them. -/
theorem read_eq_ok_iff {text : String} {endpoint : Endpoint} :
    read text = .ok endpoint ↔ ∃ address digits,
      Text.trim text.toList = address ++ ':' :: digits ∧ readIp address = some endpoint.ip ∧
      Decimal.Numeral endpoint.port.toNat digits := by
  constructor
  · intro h
    unfold read at h
    split at h
    · exact absurd h (by simp)
    · next address digits hsplit =>
      split at h
      · exact absurd h (by simp)
      · next n hport =>
        obtain ⟨hnumeral, hn⟩ := (Decimal.read_eq_ok_iff (by decide)).mp hport
        unfold resolve at h
        rw [String.toList_ofList] at h
        split at h
        · next ip hip =>
          obtain rfl := Except.ok.inj h
          have hvalue : n.toUInt16.toNat = n := Nat.mod_eq_of_lt hn
          exact ⟨address, digits, (splitLastColon_eq_some_iff.mp hsplit).1, hip,
            hvalue.symm ▸ hnumeral⟩
        · exact absurd h (by simp)
  · rintro ⟨address, digits, htext, hip, hnumeral⟩
    have hcolon : ':' ∉ digits := fun hc => absurd (hnumeral.mem hc) (by decide)
    have hport : Decimal.read 65536 digits = .ok endpoint.port.toNat :=
      (Decimal.read_eq_ok_iff (by decide)).mpr ⟨hnumeral, endpoint.port.toNat_lt⟩
    rw [read, htext, splitLastColon_append hcolon]
    dsimp only
    rw [hport]
    dsimp only
    rw [resolve, String.toList_ofList, hip]
    dsimp only
    rw [Nat.toUInt16_eq, UInt16.ofNat_toNat]

/-! ## IPv6 endpoints -/

/-- The texts of IPv6 endpoints, without the blanks around them. -/
theorem read_eq_ok_v6_iff {text : String} {ip : Ipv6} {port : UInt16} :
    read text = .ok ⟨.v6 ip, port⟩ ↔ ∃ opening closing address blanks digits,
      Text.trim text.toList = List.replicate opening '[' ++ address ++
        List.replicate closing ']' ++ blanks ++ ':' :: digits ∧
      Ipv6.read address = some ip ∧ (∀ c ∈ blanks, Text.isBlank c = true) ∧
      Decimal.Numeral port.toNat digits := by
  rw [read_eq_ok_iff]
  constructor
  · rintro ⟨front, digits, htext, hip, hport⟩
    obtain ⟨opening, closing, address, htrim, hread⟩ := readIp_eq_v6_iff.mp hip
    -- The whole text begins with no blank, so there are none before the address either.
    have hhead : ∀ c ∈ front.head?, Text.isBlank c = false := by
      rintro c hc
      refine Text.isBlank_head?_trim text.toList c ?_
      rw [htext, List.head?_append, Option.mem_def.mp hc]
      rfl
    obtain ⟨blanks, hfront, hblanks⟩ := Text.exists_dropTail Text.isBlank front
    rw [← Text.trim_of_head? hhead, htrim] at hfront
    exact ⟨opening, closing, address, blanks, digits, hfront ▸ htext, hread, hblanks, hport⟩
  · rintro ⟨opening, closing, address, blanks, digits, htext, hread, hblanks, hport⟩
    refine ⟨_, digits, htext, readIp_eq_v6_iff.mpr ⟨opening, closing, address, ?_, hread⟩, hport⟩
    obtain ⟨hchars, -⟩ := Ipv6.chars_and_colons_of_read hread
    have hne : address ≠ [] := by
      rintro rfl
      exact absurd (Ipv6.two_le_colons_of_read hread) (by decide)
    have hvisible : ∀ c ∈ List.replicate opening '[' ++ address ++ List.replicate closing ']',
        Text.isBlank c = false := by
      rintro c hc
      rcases List.mem_append.mp hc with hc | hc
      · rcases List.mem_append.mp hc with hc | hc
        · rw [List.eq_of_mem_replicate hc]
          decide
        · exact Ipv6.isBlank_of_isAddressChar (hchars c hc)
      · rw [List.eq_of_mem_replicate hc]
        decide
    have hwhole : List.replicate opening '[' ++ address ++ List.replicate closing ']' ≠ [] :=
      List.append_ne_nil_of_left_ne_nil (List.append_ne_nil_of_right_ne_nil _ hne) _
    have hbefore : ∀ c ∈ ([] : List Char), Text.isBlank c = true := by simp
    exact Text.trim_append hwhole hbefore hvisible hblanks

/-- An address without the digits behind its last colon is no address, if it is written in full. -/
theorem shortened_of_read {front digits : List Char} {whole ip : Ipv6}
    (hdigits : ∀ c ∈ digits, c.isDigit = true)
    (hwhole : Ipv6.read (front ++ ':' :: digits) = some whole)
    (hfront : Ipv6.read front = some ip) :
    [':', ':'] <:+: front ++ ':' :: digits := by
  have hcolon : ':' ∉ digits := fun hc => absurd (hdigits ':' hc) (by decide)
  have hdot : '.' ∉ digits := fun hc => absurd (hdigits '.' hc) (by decide)
  have hcount : (front ++ ':' :: digits).count ':' = front.count ':' + 1 := by
    rw [List.count_append, List.count_cons_self, List.count_eq_zero.mpr hcolon]
  have hdots : '.' ∈ front ++ ':' :: digits ↔ '.' ∈ front := by simp [hdot]
  rcases (Ipv6.chars_and_colons_of_read hwhole).2 with hshort | hwhole
  · exact hshort
  · rcases (Ipv6.chars_and_colons_of_read hfront).2 with hshort | hfront
    · exact hshort.trans (List.prefix_append front _).isInfix
    · -- In full both would have the same number of colons, apart from a dotted quad in both.
      rw [hcount, if_congr hdots rfl rfl] at hwhole
      split_ifs at hwhole hfront <;> omega

/-- An address alone is read as an endpoint exactly if it is shortened, its last group is in decimal
digits, and what is before that is an address. -/
theorem read_eq_ok_of_address_iff {text : String} {whole : Ipv6} {endpoint : Endpoint}
    (hwhole : Ipv6.read text.toList = some whole) :
    read text = .ok endpoint ↔ [':', ':'] <:+: text.toList ∧ ∃ front digits ip,
      text.toList = front ++ ':' :: digits ∧ Ipv6.read front = some ip ∧
      Decimal.Digits endpoint.port.toNat digits ∧ endpoint.ip = .v6 ip := by
  obtain ⟨hchars, -⟩ := Ipv6.chars_and_colons_of_read hwhole
  have htrim {part : List Char} (h : ∀ c ∈ part, c ∈ text.toList) : Text.trim part = part :=
    Text.trim_of_forall fun c hc => Ipv6.isBlank_of_isAddressChar (hchars c (h c hc))
  rw [read_eq_ok_iff, htrim fun c hc => hc]
  constructor
  · rintro ⟨front, digits, htext, hip, hport⟩
    have hdigits : Decimal.Digits endpoint.port.toNat digits := by
      cases hport with
      | plain h => exact h
      | signed h =>
        have hplus := hchars '+' (by rw [htext]; simp)
        exact absurd hplus (by decide)
    have hfront : Text.trim front = front :=
      htrim fun c hc => htext ▸ List.mem_append_left _ hc
    have hcolon : ':' ∉ digits := fun hc => absurd (hdigits.isDigit ':' hc) (by decide)
    cases hendpoint : endpoint.ip with
    | v4 ip =>
      -- There is only one colon then, before the port.
      rw [hendpoint] at hip
      have hnone := colon_notMem_of_readIp hip
      have htwo := Ipv6.two_le_colons_of_read hwhole
      rw [hfront] at hnone
      rw [htext, List.count_append, List.count_cons_self, List.count_eq_zero.mpr hnone,
        List.count_eq_zero.mpr hcolon] at htwo
      exact absurd htwo (by decide)
    | v6 ip =>
      rw [hendpoint] at hip
      obtain ⟨opening, closing, address, hbrackets, hread⟩ := readIp_eq_v6_iff.mp hip
      rw [hfront] at hbrackets
      have hnone (n : Nat) {bracket : Char} (hbracket : Ipv6.isAddressChar bracket = false)
          (hsub : ∀ c ∈ List.replicate n bracket, c ∈ front) : n = 0 := by
        cases n with
        | zero => rfl
        | succ n =>
          have hmem := hsub bracket (by simp)
          have hchar := hchars bracket (htext ▸ List.mem_append_left _ hmem)
          rw [hbracket] at hchar
          exact absurd hchar (by decide)
      have hopening : opening = 0 := hnone opening (by decide) fun c hc =>
        hbrackets ▸ List.mem_append_left _ (List.mem_append_left _ hc)
      have hclosing : closing = 0 := hnone closing (by decide) fun c hc =>
        hbrackets ▸ List.mem_append_right _ hc
      rw [hopening, hclosing, List.replicate_zero, List.replicate_zero, List.nil_append,
        List.append_nil] at hbrackets
      rw [← hbrackets] at hread
      rw [htext] at hwhole ⊢
      exact ⟨shortened_of_read hdigits.isDigit hwhole hread, front, digits, ip, rfl, hread,
        hdigits, rfl⟩
  · rintro ⟨-, front, digits, ip, htext, hread, hdigits, hip⟩
    refine ⟨front, digits, htext, ?_, .plain hdigits⟩
    rw [hip, readIp_eq_v6_iff]
    refine ⟨0, 0, front, ?_, hread⟩
    rw [htrim fun c hc => htext ▸ List.mem_append_left _ hc]
    exact (List.append_nil _).symm

/-- A text is read as an IPv6 endpoint exactly if it is an address with any number of brackets on
either side of it, then perhaps blanks, a colon and a port, apart from the blanks around all that.
So an address alone is read as an endpoint, with its last group for the port, exactly if it is
shortened, that group is in decimal digits, and what is before it is an address too. -/
theorem read_v6_grammar (text : String) :
    (∀ ip port, read text = .ok ⟨.v6 ip, port⟩ ↔ ∃ opening closing address blanks digits,
      Text.trim text.toList = List.replicate opening '[' ++ address ++
        List.replicate closing ']' ++ blanks ++ ':' :: digits ∧
      Ipv6.read address = some ip ∧ (∀ c ∈ blanks, Text.isBlank c = true) ∧
      Decimal.Numeral port.toNat digits) ∧
    ∀ whole endpoint, Ipv6.read text.toList = some whole →
      (read text = .ok endpoint ↔ [':', ':'] <:+: text.toList ∧ ∃ front digits ip,
        text.toList = front ++ ':' :: digits ∧ Ipv6.read front = some ip ∧
        Decimal.Digits endpoint.port.toNat digits ∧ endpoint.ip = .v6 ip) :=
  ⟨fun _ _ => read_eq_ok_v6_iff, fun _ _ => read_eq_ok_of_address_iff⟩

/-- The last group of a shortened address is taken for the port. -/
theorem read_v6_grammar_last_group :
    let whole : Ipv6 := ⟨[0xFE80, 0, 0, 0, 0, 0, 1, 0x80], rfl⟩
    let front : Ipv6 := ⟨[0xFE80, 0, 0, 0, 0, 0, 0, 1], rfl⟩
    Ipv6.read "fe80::1:80".toList = some whole ∧ read "fe80::1:80" = .ok ⟨.v6 front, 80⟩ := by
  intro whole front
  have hwhole : Ipv6.read "fe80::1:80".toList = some whole := by decide +kernel
  have hfront : Ipv6.read "fe80::1".toList = some front := by decide +kernel
  have hshort : [':', ':'] <:+: "fe80::1:80".toList := ⟨"fe80".toList, "1:80".toList, by decide⟩
  have hdigits : Decimal.Digits 80 "80".toList :=
    ⟨by decide, List.all_eq_true.mp (by decide), by decide⟩
  exact ⟨hwhole, ((read_v6_grammar "fe80::1:80").2 whole ⟨.v6 front, 80⟩ hwhole).mpr
    ⟨hshort, "fe80::1".toList, "80".toList, front, by decide, hfront, hdigits, rfl⟩⟩

/-- Without brackets, with too many of them and with one alone, an address and a port are read all
the same, even where the two are an address together. -/
theorem read_without_brackets :
    let ip : Ipv6 := ⟨[0, 0, 0, 0, 0, 0, 0, 1], rfl⟩
    read "0:0:0:0:0:0:0:1:80" = .ok ⟨.v6 ip, 80⟩ ∧ read "[[::1]]:80" = .ok ⟨.v6 ip, 80⟩ ∧
      read "::1]:80" = .ok ⟨.v6 ip, 80⟩ ∧ (Ipv6.read "::1:80".toList).isSome = true ∧
      read "::1:80" = .ok ⟨.v6 ip, 80⟩ := by
  decide +kernel

end Endpoint

end NetSession
