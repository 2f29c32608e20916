import Mathlib.Tactic.SplitIfs
import NetSession.Record.Path

/-!
# What shortening leaves of a path

Shortening looks for the third separator from the end, and only if there is none for separators at
the front. So it leaves at most two separators (`countP_shorten_le`). A path with no more than two
loses nothing but the separators at its front (`shorten_of_countP_le`), hence a path that was
shortened once, or the front of one, is changed again only if it begins with a separator
(`shorten_eq_self_iff`).

It begins with one exactly if the third separator from the end stands right before the second
(`rooted_shorten_iff`): what is behind the third is kept as it is, while a path with fewer loses the
separators at its front. Shortening a second time takes them off (`shorten_settles`).
-/

namespace NetSession.Path

/-- A path begins with a separator. -/
def Rooted (path : List Char) : Prop := ∃ c ∈ path.head?, isSeparator c = true

/-- The walk back takes as many separators along as it was to skip. -/
theorem countP_of_afterSeparatorFromEnd {skip : Nat} {before tail kept : List Char}
    (h : afterSeparatorFromEnd skip before tail = some kept) :
    kept.countP isSeparator = skip + tail.countP isSeparator := by
  induction before generalizing skip tail with
  | nil => simp [afterSeparatorFromEnd] at h
  | cons c before ih =>
    unfold afterSeparatorFromEnd at h
    split_ifs at h with hc
    · cases skip with
      | zero =>
        have hkept : tail = kept := Option.some.inj h
        rw [hkept, Nat.zero_add]
      | succ skip =>
        have hcount := ih h
        rw [List.countP_cons_of_pos hc] at hcount
        omega
    · have hcount := ih h
      rwa [List.countP_cons_of_neg hc] at hcount

/-- The walk back reaches the front exactly if there are no more separators than it was to skip. -/
theorem afterSeparatorFromEnd_eq_none_iff {skip : Nat} {before tail : List Char} :
    afterSeparatorFromEnd skip before tail = none ↔ before.countP isSeparator ≤ skip := by
  induction before generalizing skip tail with
  | nil => simp [afterSeparatorFromEnd]
  | cons c before ih =>
    unfold afterSeparatorFromEnd
    split_ifs with hc
    · rw [List.countP_cons_of_pos hc]
      cases skip with
      | zero => simp
      | succ skip => rw [ih, Nat.add_le_add_iff_right]
    · rw [List.countP_cons_of_neg hc, ih]

/-- A path with at most two separators loses those at its front. -/
theorem shorten_of_countP_le {path : List Char} (h : path.countP isSeparator ≤ 2) :
    shorten path = path.dropWhile isSeparator := by
  have hnone : afterSeparatorFromEnd 2 path.reverse [] = none := by
    rw [afterSeparatorFromEnd_eq_none_iff, List.countP_reverse]
    exact h
  rw [shorten, hnone, Option.getD_none]

/-- A shortened path has at most two separators. -/
theorem countP_shorten_le (path : List Char) : (shorten path).countP isSeparator ≤ 2 := by
  cases h : afterSeparatorFromEnd 2 path.reverse [] with
  | some kept =>
    have hcount := countP_of_afterSeparatorFromEnd h
    rw [List.countP_nil] at hcount
    rw [shorten, h, Option.getD_some]
    omega
  | none =>
    have hcount : path.countP isSeparator ≤ 2 := by
      rwa [afterSeparatorFromEnd_eq_none_iff, List.countP_reverse] at h
    rw [shorten_of_countP_le hcount]
    exact Nat.le_trans (List.dropWhile_suffix _).sublist.countP_le hcount

/-- A path with at most two separators stays as it is exactly if it begins with none. -/
theorem shorten_eq_self_iff {path : List Char} (h : path.countP isSeparator ≤ 2) :
    shorten path = path ↔ ¬ Rooted path := by
  rw [shorten_of_countP_le h, Rooted]
  cases path with
  | nil => simp
  | cons c path =>
    by_cases hc : isSeparator c = true
    · -- What is left is a part of the path behind its first separator.
      have hlen := (List.dropWhile_suffix (l := path) isSeparator).length_le
      rw [List.dropWhile_cons_of_pos hc]
      refine iff_of_false (fun heq => ?_) (fun hnot => hnot ⟨c, rfl, hc⟩)
      rw [heq, List.length_cons] at hlen
      omega
    · rw [List.dropWhile_cons_of_neg hc]
      simpa using hc

/-- No more of a path is left than there was. -/
theorem length_shorten_le {path : List Char} (h : path.countP isSeparator ≤ 2) :
    (shorten path).length ≤ path.length := by
  rw [shorten_of_countP_le h]
  exact (List.dropWhile_suffix _).length_le

/-! ## The third separator from the end -/

/-- The walk back goes through a run with as many separators as it was to skip, up to the separator
before that run. -/
theorem afterSeparatorFromEnd_append {c : Char} (hc : isSeparator c = true) (run front : List Char)
    (tail : List Char) :
    afterSeparatorFromEnd (run.countP isSeparator) (run ++ c :: front) tail =
      some (run.reverse ++ tail) := by
  induction run generalizing tail with
  | nil =>
    rw [List.countP_nil, List.nil_append, afterSeparatorFromEnd, if_pos hc]
    rfl
  | cons x run ih =>
    have htail : (x :: run).reverse ++ tail = run.reverse ++ x :: tail := by simp
    rw [List.cons_append, htail, ← ih (x :: tail)]
    by_cases hx : isSeparator x = true
    · rw [List.countP_cons_of_pos hx, afterSeparatorFromEnd, if_pos hx]
    · rw [List.countP_cons_of_neg hx, afterSeparatorFromEnd.eq_def]
      exact if_neg hx

/-- What is behind the third separator from the end is what is left. -/
theorem shorten_append {c : Char} {kept : List Char} (hc : isSeparator c = true)
    (hkept : kept.countP isSeparator = 2) (front : List Char) :
    shorten (front ++ c :: kept) = kept := by
  have hreverse : (front ++ c :: kept).reverse = kept.reverse ++ c :: front.reverse := by simp
  have hwalk := afterSeparatorFromEnd_append hc kept.reverse front.reverse []
  rw [List.countP_reverse, hkept, List.reverse_reverse, List.append_nil] at hwalk
  rw [shorten, hreverse, hwalk, Option.getD_some]

/-- A path with more than two separators has a third one from the end. -/
theorem exists_third {path : List Char} (h : 2 < path.countP isSeparator) :
    ∃ front c kept, path = front ++ c :: kept ∧ isSeparator c = true ∧
      kept.countP isSeparator = 2 := by
  induction path with
  | nil => exact absurd h (by simp)
  | cons x path ih =>
    by_cases hlater : 2 < path.countP isSeparator
    · obtain ⟨front, c, kept, rfl, hc, hkept⟩ := ih hlater
      exact ⟨x :: front, c, kept, rfl, hc, hkept⟩
    · by_cases hx : isSeparator x = true
      · -- There are no three behind this character, so it is the third itself.
        rw [List.countP_cons_of_pos hx] at h
        exact ⟨[], x, path, rfl, hx, by omega⟩
      · rw [List.countP_cons_of_neg hx] at h
        exact absurd h hlater

/-- What is left of a path is the end of it. -/
theorem shorten_suffix (path : List Char) : shorten path <:+ path := by
  rcases Nat.lt_or_ge 2 (path.countP isSeparator) with hmany | hfew
  · obtain ⟨front, c, kept, rfl, hc, hkept⟩ := exists_third hmany
    rw [shorten_append hc hkept]
    exact (List.suffix_cons c kept).trans (List.suffix_append front (c :: kept))
  · rw [shorten_of_countP_le hfew]
    exact List.dropWhile_suffix _

/-- A path with at most two separators is left without one at its front. -/
theorem not_rooted_shorten {path : List Char} (h : path.countP isSeparator ≤ 2) :
    ¬ Rooted (shorten path) := by
  rw [shorten_of_countP_le h]
  rintro ⟨c, hhead, hc⟩
  have hnot := List.head?_dropWhile_not isSeparator path
  rw [Option.mem_def.mp hhead] at hnot
  exact absurd hc (by simpa using hnot)

/-- What is left of a path begins with a separator exactly if the third separator from the end is
followed by another one. -/
theorem rooted_shorten_iff {path : List Char} :
    Rooted (shorten path) ↔ ∃ front c d rest, path = front ++ c :: d :: rest ∧
      isSeparator c = true ∧ isSeparator d = true ∧ rest.countP isSeparator = 1 := by
  constructor
  · intro hrooted
    have hmany : 2 < path.countP isSeparator :=
      Nat.lt_of_not_le fun hfew => not_rooted_shorten hfew hrooted
    obtain ⟨front, c, kept, rfl, hc, hkept⟩ := exists_third hmany
    rw [shorten_append hc hkept] at hrooted
    obtain ⟨d, hhead, hd⟩ := hrooted
    obtain ⟨rest, rfl⟩ := List.head?_eq_some_iff.mp hhead
    rw [List.countP_cons_of_pos hd] at hkept
    exact ⟨front, c, d, rest, rfl, hc, hd, Nat.succ.inj hkept⟩
  · rintro ⟨front, c, d, rest, rfl, hc, hd, hrest⟩
    have hkept : (d :: rest).countP isSeparator = 2 := by
      rw [List.countP_cons_of_pos hd, hrest]
    rw [shorten_append hc hkept]
    exact ⟨d, rfl, hd⟩

/-- What is left of a path is the end of it, with at most two separators. It begins with one, and
then is changed by shortening it again, exactly if the third separator from the end of the path is
followed by another one. Shortening twice leaves no separator at the front, and nothing to
shorten. -/
theorem shorten_settles (path : List Char) :
    shorten path <:+ path ∧ (shorten path).countP isSeparator ≤ 2 ∧
    (Rooted (shorten path) ↔ ∃ front c d rest, path = front ++ c :: d :: rest ∧
      isSeparator c = true ∧ isSeparator d = true ∧ rest.countP isSeparator = 1) ∧
    (shorten (shorten path) = shorten path ↔ ¬ Rooted (shorten path)) ∧
    ¬ Rooted (shorten (shorten path)) ∧
    shorten (shorten (shorten path)) = shorten (shorten path) := by
  have hfew := countP_shorten_le path
  have htwice := not_rooted_shorten hfew
  exact ⟨shorten_suffix path, hfew, rooted_shorten_iff, shorten_eq_self_iff hfew, htwice,
    (shorten_eq_self_iff (countP_shorten_le _)).mpr htwice⟩

/-- A file name behind three separators keeps two of them, and loses those when it is shortened
again. -/
theorem shorten_keeps_separators :
    shorten "///file.c".toList = "//file.c".toList ∧ Rooted (shorten "///file.c".toList) ∧
    shorten (shorten "///file.c".toList) ≠ shorten "///file.c".toList := by
  have hkept : shorten "///file.c".toList = "//file.c".toList := by decide
  rw [hkept]
  exact ⟨rfl, ⟨'/', rfl, rfl⟩, by decide⟩

end NetSession.Path
