import NetSession.Proofs.Text.Numerals
import NetSession.Text.Blank

/-!
# What trimming leaves of a text

A run of characters of a class is taken off the end of a text (`dropTail_append`), blanks are taken
off both ends (`trim_append`), and nothing else is (`exists_dropTail`, `exists_trim`). No blank is
left at the front (`isBlank_head?_trim`).
-/

namespace NetSession.Text

/-- No visible character of the ASCII class is a blank. -/
theorem isBlank_eq_false {c : Char} (hlow : 0x20 < c.toNat) (hhigh : c.toNat < 0x80) :
    isBlank c = false := by
  simp only [isBlank, Bool.or_eq_false_iff, Bool.and_eq_false_iff, decide_eq_false_iff_not,
    beq_eq_false_iff_ne]
  omega

/-! ## What is taken off -/

/-- The class of characters behind a text is taken off its end. -/
theorem dropTail_append {p : Char → Bool} {text after : List Char}
    (htext : ∀ c ∈ text, p c = false) (hafter : ∀ c ∈ after, p c = true) :
    dropTail p (text ++ after) = text := by
  have hrun : ∀ c ∈ after.reverse, p c = true := fun c h => hafter c (List.mem_reverse.mp h)
  have hrest : ∀ c ∈ text.reverse.head?, p c = false :=
    fun c h => htext c (List.mem_reverse.mp (List.mem_of_mem_head? h))
  have hdrop := (takeWhile_append_of_head? hrun hrest).2
  rw [dropTail, List.reverse_append, hdrop, List.reverse_reverse]

/-- So is a run of one character, if the text has none of it. -/
theorem dropTail_append_replicate {c : Char} {text : List Char} (h : c ∉ text) (n : Nat) :
    dropTail (· == c) (text ++ List.replicate n c) = text := by
  refine dropTail_append (fun x hx => beq_false_of_ne ?_) (fun x hx => ?_)
  · rintro rfl
    exact h hx
  · exact beq_iff_eq.mpr (List.eq_of_mem_replicate hx)

/-- The blanks around a text without blanks are taken off. -/
theorem trim_append {before text after : List Char} (hne : text ≠ [])
    (hbefore : ∀ c ∈ before, isBlank c = true) (htext : ∀ c ∈ text, isBlank c = false)
    (hafter : ∀ c ∈ after, isBlank c = true) : trim (before ++ text ++ after) = text := by
  have hhead : ∀ c ∈ (text ++ after).head?, isBlank c = false := by
    obtain ⟨first, text, rfl⟩ := List.exists_cons_of_ne_nil hne
    rintro c hc
    obtain rfl := Option.some.inj hc
    exact htext first List.mem_cons_self
  have hdrop := (takeWhile_append_of_head? hbefore hhead).2
  rw [trim, List.append_assoc, hdrop, dropTail_append htext hafter]

/-- A text that begins with no blank loses only those at its end. -/
theorem trim_of_head? {text : List Char} (h : ∀ c ∈ text.head?, isBlank c = false) :
    trim text = dropTail isBlank text := by
  have hrun : ∀ c ∈ ([] : List Char), isBlank c = true := by simp
  have hdrop := (takeWhile_append_of_head? hrun h).2
  rw [List.nil_append] at hdrop
  rw [trim, hdrop]

/-- A text without blanks stays as it is. -/
theorem trim_of_forall {text : List Char} (h : ∀ c ∈ text, isBlank c = false) :
    trim text = text := by
  have hend : dropTail isBlank (text ++ []) = text := dropTail_append h (by simp)
  rw [List.append_nil] at hend
  rw [trim_of_head? fun c hc => h c (List.mem_of_mem_head? hc), hend]

/-! ## What is kept -/

/-- Nothing but a run of the class is taken off the end of a text. -/
theorem exists_dropTail (p : Char → Bool) (text : List Char) :
    ∃ after, text = dropTail p text ++ after ∧ ∀ c ∈ after, p c = true := by
  refine ⟨(text.reverse.takeWhile p).reverse, ?_, fun c hc => ?_⟩
  · rw [dropTail, ← List.reverse_append, List.takeWhile_append_dropWhile, List.reverse_reverse]
  · exact List.mem_takeWhile_imp (List.mem_reverse.mp hc)

/-- If the class has one character, that is how often it stands there. -/
theorem exists_dropTail_replicate (c : Char) (text : List Char) :
    ∃ n, text = dropTail (· == c) text ++ List.replicate n c := by
  obtain ⟨after, htext, hafter⟩ := exists_dropTail (· == c) text
  have hreplicate : after = List.replicate after.length c :=
    List.eq_replicate_iff.mpr ⟨rfl, fun x hx => beq_iff_eq.mp (hafter x hx)⟩
  exact ⟨after.length, hreplicate ▸ htext⟩

/-- Nothing but blanks is taken off a text. -/
theorem exists_trim (text : List Char) :
    ∃ before after, text = before ++ trim text ++ after ∧
      (∀ c ∈ before, isBlank c = true) ∧ ∀ c ∈ after, isBlank c = true := by
  obtain ⟨after, hafter, hblank⟩ := exists_dropTail isBlank (text.dropWhile isBlank)
  refine ⟨text.takeWhile isBlank, after, ?_, fun c hc => List.mem_takeWhile_imp hc, hblank⟩
  rw [List.append_assoc, trim, ← hafter, List.takeWhile_append_dropWhile]

/-- No blank is left at the front. -/
theorem isBlank_head?_trim (text : List Char) : ∀ c ∈ (trim text).head?, isBlank c = false := by
  obtain ⟨after, hafter, -⟩ := exists_dropTail isBlank (text.dropWhile isBlank)
  rintro c hc
  have hhead : (text.dropWhile isBlank).head? = some c := by
    rw [hafter, List.head?_append, ← trim, Option.mem_def.mp hc, Option.some_or]
  have hnot := List.head?_dropWhile_not isBlank text
  rw [hhead] at hnot
  exact hnot

end NetSession.Text
