import Mathlib.Data.List.TakeWhile
import Mathlib.Tactic.SplitIfs
import NetSession.Record.Decode

/-!
# Fields by their places

A field is found by its offset alone: it ends at the first NUL from there on. `nulFrom` is the place
of that NUL, and whether a field can be read is a matter of that place (`field_isOk_iff`); so is
whether the message of the base form can, which must end the record (`messageBytes_isOk_iff`). In
the front of some bytes, the first NUL is where it is in all of them, if it is in the front at all
(`nulFrom_take`).
-/

namespace NetSession.Record

/-! ## The first NUL from a place on -/

/-- Behind the bytes before the first NUL there is a NUL, if there is anything. -/
theorem getElem?_length_takeWhile {bytes : Bytes}
    (h : (bytes.takeWhile (· != 0)).length < bytes.length) :
    bytes[(bytes.takeWhile (· != 0)).length]? = some 0 := by
  induction bytes with
  | nil => exact absurd h (Nat.lt_irrefl 0)
  | cons b bytes ih =>
    by_cases hb : b = 0
    · subst hb
      rfl
    · rw [List.takeWhile_cons_of_pos (by simpa using hb)] at h ⊢
      exact ih (Nat.lt_of_succ_lt_succ h)

/-- There is a NUL exactly if not all bytes are before the first one. -/
theorem zero_mem_iff {bytes : Bytes} :
    0 ∈ bytes ↔ (bytes.takeWhile (· != 0)).length < bytes.length := by
  constructor
  · intro h
    refine Nat.lt_of_not_le fun hle => ?_
    -- Otherwise all bytes are before the first NUL, and none of them is one.
    have hall := (List.takeWhile_prefix (· != 0)).eq_of_length_le hle
    rw [← hall] at h
    simpa using List.mem_takeWhile_imp h
  · exact fun h => List.mem_of_getElem? (getElem?_length_takeWhile h)

/-- The place of the first NUL at or behind a place; the end of what is there if there is none. -/
def nulFrom (bytes : Bytes) (i : Nat) : Nat := i + ((bytes.drop i).takeWhile (· != 0)).length

/-- The first NUL is at or behind the place from which it is looked for. -/
theorem le_nulFrom (bytes : Bytes) (i : Nat) : i ≤ nulFrom bytes i := Nat.le_add_right _ _

/-- In the front of some bytes the first NUL is at the same place, or the front ends before it. -/
theorem nulFrom_take (bytes : Bytes) (k i : Nat) :
    nulFrom (bytes.take k) i = i + min (k - i) (nulFrom bytes i - i) := by
  rw [nulFrom, nulFrom, Nat.add_sub_cancel_left, List.drop_take, ← List.take_takeWhile,
    List.length_take]

/-- A place that is counted behind other bytes. -/
theorem nulFrom_drop (bytes : Bytes) (k i : Nat) :
    k + nulFrom (bytes.drop k) i = nulFrom bytes (k + i) := by
  rw [nulFrom, nulFrom, List.drop_drop, Nat.add_assoc]

/-- The first NUL is no later than any other. -/
theorem nulFrom_le {bytes : Bytes} {i p : Nat} (hp : bytes[p]? = some 0) (hle : i ≤ p) :
    nulFrom bytes i ≤ p := by
  obtain ⟨d, rfl⟩ := Nat.exists_eq_add_of_le hle
  rw [← List.getElem?_drop] at hp
  rw [nulFrom]
  refine Nat.add_le_add_left (Nat.le_of_not_lt fun hlt => ?_) i
  -- A NUL at an earlier place would be among the bytes before the first one.
  have hmem := List.getElem_mem hlt
  have hget : ((bytes.drop i).takeWhile (· != 0))[d] = 0 := by
    obtain ⟨rest, hrest⟩ := List.takeWhile_prefix (l := bytes.drop i) (· != 0)
    rw [← hrest, List.getElem?_append_left hlt, List.getElem?_eq_getElem hlt] at hp
    exact Option.some.inj hp
  rw [hget] at hmem
  simpa using List.mem_takeWhile_imp hmem

/-- There is a NUL where the first one is, if there is one. -/
theorem getElem?_nulFrom {bytes : Bytes} {i : Nat} (h : nulFrom bytes i < bytes.length) :
    bytes[nulFrom bytes i]? = some 0 := by
  rw [nulFrom] at h ⊢
  rw [← List.getElem?_drop]
  apply getElem?_length_takeWhile
  rw [List.length_drop]
  omega

/-- A place that is looked from later has its first NUL later. -/
theorem nulFrom_mono {bytes : Bytes} {i j : Nat} (hle : i ≤ j)
    (h : nulFrom bytes j < bytes.length) : nulFrom bytes i ≤ nulFrom bytes j :=
  nulFrom_le (getElem?_nulFrom h) (Nat.le_trans hle (le_nulFrom _ _))

/-- Bytes without NULs that have one behind them have it there and nowhere else. -/
theorem getElem?_append_zero_iff {text : Bytes} (hclean : 0 ∉ text) (i : Nat) :
    (text ++ [0])[i]? = some 0 ↔ i = text.length := by
  constructor
  · intro hnul
    rcases Nat.lt_trichotomy i text.length with hlt | heq | hgt
    · rw [List.getElem?_append_left hlt] at hnul
      exact absurd (List.mem_of_getElem? hnul) hclean
    · exact heq
    · rw [List.getElem?_eq_none (by simp; omega)] at hnul
      contradiction
  · rintro rfl
    simp

/-! ## Reading a field -/

/-- A text with a NUL behind it is the field at its place. -/
theorem field_eq_ok {r : Record} {offset : UInt8} {text : Bytes} (before after : Bytes)
    (hextra : r.extra = before ++ text ++ 0 :: after) (hoffset : offset.toNat = before.length)
    (hclean : 0 ∉ text) : r.field offset = .ok text := by
  have htail : r.extra.drop offset.toNat = text ++ 0 :: after := by
    rw [hextra, hoffset, List.append_assoc, List.drop_left]
  have hlen : ¬ r.extra.length ≤ offset.toNat := by
    rw [hextra, hoffset, List.length_append, List.length_append, List.length_cons]
    omega
  have hkept : ∀ x ∈ text, (x != 0) = true := fun x hx => by
    simpa using fun e : x = 0 => hclean (e ▸ hx)
  rw [field, htail, if_neg hlen, if_pos (by simp), List.takeWhile_append_of_pos hkept,
    List.takeWhile_cons_of_neg (by simp), List.append_nil]

/-- Bytes with a NUL behind them are the message at their place, if the header has their length. -/
theorem messageBytes_eq_ok {r : Record} {len : UInt16} {message : Bytes} (before after : Bytes)
    (hlen : r.header.msgLen = some len) (hextra : r.extra = before ++ message ++ 0 :: after)
    (hoffset : r.header.msgOffset.toNat = before.length) (hmessage : len.toNat = message.length) :
    r.messageBytes = .ok message := by
  have hlast : before.length + message.length < r.extra.length := by
    rw [hextra]
    simp
  have hnul : r.extra[before.length + message.length]? = some 0 := by
    rw [hextra, ← List.length_append, List.getElem?_append_right (Nat.le_refl _), Nat.sub_self]
    rfl
  rw [messageBytes, hlen]
  dsimp only
  rw [hoffset, hmessage, if_neg (Nat.not_le.mpr hlast), if_neg (by simp [hnul]), hextra,
    List.append_assoc, List.drop_left, List.take_left]

/-- A field can be read exactly if there is a NUL at or behind its offset. -/
theorem field_isOk_iff {r : Record} {offset : UInt8} :
    (∃ text, r.field offset = .ok text) ↔ nulFrom r.extra offset.toNat < r.extra.length := by
  have hnul := @zero_mem_iff (r.extra.drop offset.toNat)
  rw [List.length_drop] at hnul
  rw [field, nulFrom]
  split_ifs with houtside hmem
  · -- The offset is behind the end.
    simp only [exists_false, false_iff]
    omega
  · have := hnul.mp hmem
    simp only [Except.ok.injEq, exists_eq', true_iff]
    omega
  · have := mt hnul.mpr hmem
    simp only [exists_false, false_iff]
    omega

/-- A field that can be read is what lies between its offset and the first NUL. -/
theorem length_of_field_eq_ok {r : Record} {offset : UInt8} {text : Bytes}
    (h : r.field offset = .ok text) :
    offset.toNat + text.length = nulFrom r.extra offset.toNat := by
  rw [field] at h
  split_ifs at h
  rw [nulFrom, ← Except.ok.inj h]

/-- The message of the base form can be read exactly if the first NUL from its offset on is the
record's last byte. -/
theorem messageBytes_isOk_iff {r : Record} (hnone : r.header.msgLen = none) :
    (∃ message, r.messageBytes = .ok message) ↔
      nulFrom r.extra r.header.msgOffset.toNat + 1 = r.extra.length := by
  have hfield := @field_isOk_iff r r.header.msgOffset
  simp only [messageBytes, hnone]
  cases hread : r.field r.header.msgOffset with
  | error fault =>
    simp only [hread, reduceCtorEq, exists_false, false_iff] at hfield
    simp only [bind, Except.bind, reduceCtorEq, exists_false, false_iff]
    omega
  | ok message =>
    -- The message ends where its NUL is, which must be the last byte.
    rw [← length_of_field_eq_ok hread]
    simp only [bind, Except.bind]
    split_ifs with hlast
    · simp only [Except.ok.injEq, exists_eq', hlast]
    · simp only [exists_false, hlast]

end NetSession.Record
