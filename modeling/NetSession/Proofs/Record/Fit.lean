import NetSession.Proofs.Text.Utf8
import NetSession.Record.Encode

/-!
# What of a text a field keeps

`fitText` looks at bytes: it ends a text at its first NUL and, if the rest is too long, walks back
to a byte that begins a character. On the bytes of a text this is the same as to keep the longest
run of whole characters before the first NUL that the field has room for (`fitText_encode`). Fitted
fields thus hold text, and no NUL.

The three fields before the message then lie where they must: each leaves room for the terminators
after it, and the message starts no later than index 255 (`Prefix.msgOffset_fit_le`).
-/

namespace NetSession.Record

open Utf8 (charsWithin untilNul)

/-! ## Where a cut falls -/

/-- The walk back stops at a place where a character begins, or at the start, if no character begins
between there and where it set out. -/
theorem charFloor_eq {bytes : Bytes} {p : Nat} (hp : p = 0 ∨ (bytes[p]?).any isLeading = true) :
    ∀ {i : Nat}, p ≤ i → (∀ q, p < q → q ≤ i → (bytes[q]?).any isLeading = false) →
      charFloor bytes i = p
  | 0, hle, _ => (Nat.le_zero.mp hle).symm
  | i + 1, hle, hbetween => by
    rw [charFloor]
    rcases Nat.lt_or_ge i p with hlt | hge
    · have hi : p = i + 1 := by omega
      subst hi
      rw [if_pos (hp.resolve_left (Nat.succ_ne_zero i))]
    · rw [hbetween (i + 1) (by omega) (Nat.le_refl _), if_neg Bool.false_ne_true]
      exact charFloor_eq hp hge fun q hq hqi => hbetween q hq (by omega)

/-- Behind bytes after which a character begins, the walk back through the bytes of a text stops
behind the characters that are whole before its start. -/
theorem charFloor_append_encode (before : Bytes) (text : List Char) {i : Nat}
    (hle : before.length ≤ i) (hi : i < (before ++ Utf8.encode text).length) :
    charFloor (before ++ Utf8.encode text) i =
      before.length + (Utf8.encode (charsWithin (i - before.length) text)).length := by
  induction text generalizing before with
  | nil =>
    rw [Utf8.encode_nil, List.append_nil] at hi
    omega
  | cons c text ih =>
    obtain ⟨b, tail, hc, hb, htail⟩ := Utf8.exists_encodeChar c
    rw [charsWithin]
    split_ifs with hfits
    · -- The walk back starts behind the whole of `c`.
      have hstep := ih (before ++ Utf8.encodeChar c) (by rw [List.length_append]; omega)
        (by simpa only [Utf8.encode_cons, List.append_assoc] using hi)
      rw [List.append_assoc, List.length_append] at hstep
      rw [Utf8.encode_cons, hstep, Utf8.encode_cons, List.length_append, Nat.sub_add_eq]
      omega
    · -- It starts inside `c`, whose first byte is the only one that begins a character.
      rw [Utf8.encode_nil, List.length_nil, Nat.add_zero]
      rw [hc, List.length_cons] at hfits
      rw [Utf8.encode_cons, hc]
      refine charFloor_eq (Or.inr ?_) hle fun q hq hqi => ?_
      · rw [List.getElem?_append_right (Nat.le_refl _), Nat.sub_self]
        simpa [isLeading] using hb
      · obtain ⟨k, rfl⟩ : ∃ k, q = before.length + (k + 1) := ⟨q - before.length - 1, by omega⟩
        have hk : k < tail.length := by omega
        rw [List.getElem?_append_right (Nat.le_add_right _ _), Nat.add_sub_cancel_left,
          List.cons_append, List.getElem?_cons_succ, List.getElem?_append_left hk,
          List.getElem?_eq_getElem hk]
        have := htail _ (List.getElem_mem hk)
        simp [isLeading]
        omega

/-- On the bytes of a text, a field keeps the longest run of whole characters before the first NUL
that it has room for. -/
theorem fitText_encode (text : List Char) (start last : Nat) :
    fitText (Utf8.encode text) start last =
      Utf8.encode (charsWithin (last - start) (untilNul text)) := by
  rw [fitText, beforeNul, Utf8.takeWhile_encode]
  generalize untilNul text = kept
  -- The text has room, or the walk back decides where it is cut.
  by_cases hfits : (Utf8.encode kept).length ≤ last - start
  · rw [Utf8.charsWithin_of_length_le hfits]
    split_ifs with h
    · rfl
    · -- Its place is behind the last index, and then there is room for nothing only.
      have hnil : Utf8.encode kept = [] := List.length_eq_zero_iff.mp (by omega)
      rw [hnil, List.take_nil]
  · rw [if_neg (by omega)]
    have hfloor := charFloor_append_encode [] kept (i := last - start) (Nat.zero_le _)
      (by rw [List.nil_append]; omega)
    rw [List.nil_append, List.length_nil, Nat.zero_add, Nat.sub_zero] at hfloor
    rw [hfloor]
    obtain ⟨rest, hrest⟩ := Utf8.charsWithin_isPrefix (last - start) kept
    have hsplit : Utf8.encode kept = Utf8.encode (charsWithin (last - start) kept) ++
        Utf8.encode rest := by
      rw [← Utf8.encode_append, hrest]
    rw [hsplit, List.take_left]

/-- What a field keeps of a text are whole characters from its start, none of them NUL. -/
theorem exists_fitText_encode (text : List Char) (start last : Nat) :
    ∃ kept, kept <+: untilNul text ∧ fitText (Utf8.encode text) start last = Utf8.encode kept :=
  ⟨_, Utf8.charsWithin_isPrefix _ _, fitText_encode text start last⟩

/-- A field whose text starts no later than its last index ends no later. -/
theorem length_fitText_le (text : List Char) (start last : Nat) :
    (fitText (Utf8.encode text) start last).length ≤ last - start := by
  rw [fitText_encode]
  exact Utf8.length_encode_charsWithin_le _ _

/-- A fitted field has no NUL. -/
theorem zero_notMem_fitText (text : List Char) (start last : Nat) :
    0 ∉ fitText (Utf8.encode text) start last := by
  rw [fitText_encode]
  apply Utf8.zero_notMem_encode
  exact fun h => Utf8.nul_notMem_untilNul text ((Utf8.charsWithin_isPrefix _ _).subset h)

/-- A text that has room is kept up to its first NUL. -/
theorem fitText_of_fits {text : List Char} {start last : Nat}
    (h : (Utf8.encode (untilNul text)).length ≤ last - start) :
    fitText (Utf8.encode text) start last = Utf8.encode (untilNul text) := by
  rw [fitText_encode, Utf8.charsWithin_of_length_le h]

/-- The bytes before the first NUL are no more than all bytes. -/
theorem length_encode_untilNul_le (text : List Char) :
    (Utf8.encode (untilNul text)).length ≤ (Utf8.encode text).length := by
  rw [← Utf8.takeWhile_encode]
  exact (List.takeWhile_prefix _).length_le

/-! ## The fields before the message -/

namespace Prefix

variable (fields : Fields) {room : Nat}

/-- The name is fitted from the start on. -/
theorem fit_name : (fit fields room).name =
    fitText (Utf8.encode fields.name.toList) 0 (lastForName room) := rfl

/-- The tags are fitted behind the name. -/
theorem fit_tags : (fit fields room).tags =
    fitText (Utf8.encode fields.tags.toList) (fit fields room).tagsOffset
      (lastForTags room) := by
  simp only [fit, tagsOffset, Utf8.ofString]

/-- The shortened source file is fitted behind the tags. -/
theorem fit_file : (fit fields room).file =
    fitText (Utf8.encode (Path.shorten fields.file.toList)) (fit fields room).fileOffset
      (lastForFile room) := by
  simp only [fit, fileOffset, tagsOffset]

/-- The name as it is kept has no NUL. -/
theorem zero_notMem_name_fit : 0 ∉ (fit fields room).name := by
  rw [fit_name]
  exact zero_notMem_fitText _ _ _

/-- The tags as they are kept have no NUL. -/
theorem zero_notMem_tags_fit : 0 ∉ (fit fields room).tags := by
  rw [fit_tags]
  exact zero_notMem_fitText _ _ _

/-- The source file as it is kept has no NUL. -/
theorem zero_notMem_file_fit : 0 ∉ (fit fields room).file := by
  rw [fit_file]
  exact zero_notMem_fitText _ _ _

/-- The name as it is kept ends no later than its last index. -/
theorem length_name_fit_le : (fit fields room).name.length ≤ lastForName room := by
  rw [fit_name]
  exact length_fitText_le fields.name.toList 0 _

/-- The tags as they are kept end no later than their last index. -/
theorem tagsOffset_fit_add_le (h : 4 ≤ room) :
    (fit fields room).tagsOffset + (fit fields room).tags.length ≤ lastForTags room := by
  have hname : (fit fields room).name.length ≤ lastForName room := length_name_fit_le fields
  have htags : (fit fields room).tags.length ≤ lastForTags room - (fit fields room).tagsOffset := by
    rw [fit_tags]
    exact length_fitText_le _ _ _
  simp only [lastForName, lastForTags, tagsOffset] at *
  omega

/-- The source file as it is kept ends no later than its last index. -/
theorem fileOffset_fit_add_le (h : 4 ≤ room) :
    (fit fields room).fileOffset + (fit fields room).file.length ≤ lastForFile room := by
  have htags := tagsOffset_fit_add_le fields h
  have hfile : (fit fields room).file.length ≤ lastForFile room - (fit fields room).fileOffset := by
    rw [fit_file]
    exact length_fitText_le _ _ _
  simp only [lastForFile, lastForTags, fileOffset] at *
  omega

/-- The message starts where a byte can say it starts. -/
theorem msgOffset_fit_le (h : 4 ≤ room) : (fit fields room).msgOffset ≤ 255 := by
  have hfile := fileOffset_fit_add_le fields h
  simp only [lastForFile, msgOffset] at *
  omega

/-- There is room behind the three fields for a terminator. -/
theorem msgOffset_fit_lt (h : 4 ≤ room) : (fit fields room).msgOffset < room := by
  have hfile := fileOffset_fit_add_le fields h
  simp only [lastForFile, msgOffset] at *
  omega

end Prefix

end NetSession.Record
