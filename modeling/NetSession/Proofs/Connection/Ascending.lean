import Mathlib.Data.List.Nodup
import Mathlib.Data.List.Perm.Basic
import Std.Data.TreeMap

/-!
# Maps as lists that ascend

The list of a map ascends by its keys, and a list that ascends is determined by its members
(`toList_eq`). What an operation does to the list of a map follows from what it does to the lookup.
-/

namespace NetSession.Ascending

variable {α : Type}

/-- What is looked up after a key was taken out. -/
theorem getElem?_erase (m : Std.TreeMap Nat α) (k k' : Nat) :
    (m.erase k)[k']? = if k' = k then none else m[k']? := by
  rw [Std.TreeMap.getElem?_erase]
  simp only [Nat.compare_eq_eq, eq_comm (a := k)]

/-- What is looked up after a key was put in. -/
theorem getElem?_insert (m : Std.TreeMap Nat α) (k k' : Nat) (v : α) :
    (m.insert k v)[k']? = if k' = k then some v else m[k']? := by
  rw [Std.TreeMap.getElem?_insert]
  simp only [Nat.compare_eq_eq, eq_comm (a := k)]

/-- The values of a map stand in the order of their keys. -/
theorem values_eq (m : Std.TreeMap Nat α) : m.values = m.toList.map Prod.snd := by
  have hfold : m.values = m.foldr (fun _ v l => v :: l) [] := rfl
  rw [hfold, Std.TreeMap.foldr_eq_foldr_toList]
  exact List.map_eq_foldr.symm

/-- The list of a map ascends. -/
theorem pairwise_toList (m : Std.TreeMap Nat α) : m.toList.Pairwise (·.1 < ·.1) := by
  simpa only [Nat.compare_eq_lt] using Std.TreeMap.ordered_keys_toList (t := m)

/-- The list of a map is the only one that ascends and has the map's entries. -/
theorem toList_eq {m : Std.TreeMap Nat α} {l : List (Nat × α)}
    (hsorted : l.Pairwise (·.1 < ·.1)) (hmem : ∀ k v, (k, v) ∈ l ↔ m[k]? = some v) :
    m.toList = l := by
  -- Two lists with the same members are in the same order if both ascend.
  have hnodup {l : List (Nat × α)} (h : l.Pairwise (·.1 < ·.1)) : l.Nodup :=
    h.imp fun hlt heq => absurd hlt (by rw [heq]; exact Nat.lt_irrefl _)
  have hperm : m.toList.Perm l := by
    rw [List.perm_ext_iff_of_nodup (hnodup (pairwise_toList m)) (hnodup hsorted)]
    rintro ⟨k, v⟩
    rw [hmem, Std.TreeMap.mem_toList_iff_getElem?_eq_some]
  apply List.Perm.eq_of_pairwise _ (pairwise_toList m) hsorted hperm
  intro a b _ _ hab hba
  exact absurd hab (Nat.lt_asymm hba)

/-- A key behind all others comes last. -/
theorem toList_insert_of_lt {m : Std.TreeMap Nat α} {k : Nat} (v : α)
    (hlt : ∀ k' v', m[k']? = some v' → k' < k) : (m.insert k v).toList = m.toList ++ [(k, v)] := by
  apply toList_eq
  · rw [List.pairwise_append]
    refine ⟨pairwise_toList m, List.pairwise_singleton _ _, ?_⟩
    rintro ⟨k', v'⟩ hmem _ hlast
    rw [List.mem_singleton.mp hlast]
    exact hlt k' v' (Std.TreeMap.mem_toList_iff_getElem?_eq_some.mp hmem)
  · intro k' v'
    rw [List.mem_append, List.mem_singleton, Std.TreeMap.mem_toList_iff_getElem?_eq_some,
      getElem?_insert]
    by_cases h : k' = k
    · -- The key was not there before, as it would be behind itself.
      have hnone : m[k]? ≠ some v' := fun he => Nat.lt_irrefl k (hlt k v' he)
      simp [h, hnone, eq_comm]
    · simp [h]

end NetSession.Ascending
