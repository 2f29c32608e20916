import Mathlib.Data.List.Induction

/-!
# What has happened before

A trace is a list of what happened, in order. `EachAfter` says of every member of a list that it
stands in a relation to those before it. A list that grows at its end keeps this if the new members
do (`EachAfter.concat`, `EachAfter.append`), and what never has itself before it is there at most
once (`EachAfter.count_le_one`).
-/

namespace NetSession

variable {α : Type}

/-- Each member of a list stands in a relation to the list of those before it. -/
def EachAfter (P : List α → α → Prop) (l : List α) : Prop :=
  ∀ past a future, l = past ++ a :: future → P past a

namespace EachAfter

variable {P : List α → α → Prop} {l l' : List α} {a : α}

/-- There is nothing in an empty list. -/
theorem nil : EachAfter P [] := by
  intro past a future heq
  exact absurd heq (by simp)

/-- One more member comes after all others. -/
theorem concat (h : EachAfter P l) (ha : P l a) : EachAfter P (l ++ [a]) := by
  intro past a' future heq
  -- Either the last member is meant, or one of the others.
  rcases List.eq_nil_or_concat future with rfl | ⟨front, last, rfl⟩
  · obtain ⟨rfl, hlast⟩ := List.append_inj' heq rfl
    obtain rfl := List.cons.inj hlast |>.1
    exact ha
  · rw [List.concat_eq_append, ← List.cons_append, ← List.append_assoc] at heq
    obtain ⟨hfront, -⟩ := List.append_inj' heq rfl
    exact h _ _ _ hfront

/-- More members come after all others. -/
theorem append (h : EachAfter P l)
    (h' : ∀ past a future, l' = past ++ a :: future → P (l ++ past) a) :
    EachAfter P (l ++ l') := by
  induction l' using List.reverseRecOn with
  | nil => rwa [List.append_nil]
  | append_singleton l' b ih =>
    rw [← List.append_assoc]
    apply concat
    · apply ih
      intro past a future heq
      exact h' past a (future ++ [b]) (by rw [heq, List.append_assoc, List.cons_append])
    · exact h' l' b [] rfl

/-- The members of a list that goes on stood to those before them already. -/
theorem of_append (h : EachAfter P (l ++ l')) : EachAfter P l := by
  intro past a future heq
  exact h past a (future ++ l') (by rw [heq, List.append_assoc, List.cons_append])

/-- What never comes after itself is there at most once. -/
theorem count_le_one [DecidableEq α] (h : EachAfter P l) (ha : ∀ past, P past a → a ∉ past) :
    l.count a ≤ 1 := by
  induction l using List.reverseRecOn with
  | nil => exact Nat.zero_le 1
  | append_singleton l b ih =>
    rw [List.count_append, List.count_singleton]
    split
    · next heq =>
      rw [beq_iff_eq] at heq
      have hnone : l.count a = 0 := List.count_eq_zero.mpr (ha l (h l a [] (by rw [heq])))
      omega
    · have hl := ih h.of_append
      omega

end EachAfter

end NetSession
