import NetSession.Proofs.Connection.Order
import NetSession.Proofs.Connection.Outline

/-!
# The sweep sees all who are silent

A table looks for silent connections from its head on and stops at the first one that is not. As
long as connections stand in the order of their last reads (`Pool.Ascends`), nobody silent is behind
that one, and the sweep finds the same as a look at the whole table (`Table.expired_eq_filter`). The
order is kept where a connection that is read from moves to the tail (`Pool.Ascends.append`).
-/

namespace NetSession

namespace Pool

/-- When the connection behind a reference was last read from, or accepted. -/
def activity (pool : Pool) (ref : Ref) : Option Instant := (pool.get? ref).map (·.lastActivity)

/-- An outline shows when a connection was last read from. -/
theorem activity_eq (pool : Pool) (ref : Ref) :
    pool.activity ref = (pool.outline ref).map (·.lastActivity) := by
  unfold activity outline
  cases pool.get? ref <;> rfl

/-- What sets no time of a last read leaves all of them alone. -/
theorem activity_modify {f : Connection → Connection} (pool : Pool) (ref ref' : Ref)
    (hf : ∀ c, (f c).lastActivity = c.lastActivity) :
    (pool.modify ref f).activity ref' = pool.activity ref' := by
  unfold activity
  rw [get?_modify]
  split
  · next heq =>
    rw [heq, Option.map_map]
    congr 1
    funext c
    exact hf c
  · rfl

/-- A stamp is the time of the last read from a connection that there is. -/
theorem activity_stamp {pool : Pool} {ref : Ref} (h : pool.get? ref ≠ none) (now : Instant)
    (ref' : Ref) :
    (pool.modify ref (·.stamp now)).activity ref' =
      if ref' = ref then some now else pool.activity ref' := by
  obtain ⟨c, hc⟩ := Option.ne_none_iff_exists'.mp h
  unfold activity
  rw [get?_modify]
  split
  · rw [hc]
    rfl
  · rfl

/-- References in the order of the last reads from their connections, of which none is later than a
moment. -/
structure Ascends (pool : Pool) (now : Instant) (refs : List Ref) : Prop where
  /-- There is a connection behind each reference, last read from by then. -/
  past : ∀ ref ∈ refs, ∃ t, pool.activity ref = some t ∧ t.nanos ≤ now.nanos
  /-- Who stands before another was not read from later. -/
  ordered : refs.Pairwise fun ref ref' => ∀ t t', pool.activity ref = some t →
    pool.activity ref' = some t' → t.nanos ≤ t'.nanos

namespace Ascends

variable {pool pool' : Pool} {now now' : Instant} {refs refs' : List Ref}

/-- No references are in order. -/
theorem nil : pool.Ascends now [] := by
  constructor
  · exact fun _ h => absurd h List.not_mem_nil
  · exact .nil

/-- The order is kept while the times of the last reads are, and time goes on. -/
theorem congr (h : pool.Ascends now refs)
    (hpool : ∀ ref ∈ refs, pool'.activity ref = pool.activity ref)
    (hnow : now.nanos ≤ now'.nanos) : pool'.Ascends now' refs := by
  constructor
  · intro ref hmem
    obtain ⟨t, ht, hle⟩ := h.past ref hmem
    exact ⟨t, (hpool ref hmem).trans ht, Nat.le_trans hle hnow⟩
  · apply h.ordered.imp_of_mem
    intro ref ref' hmem hmem' hle
    rw [hpool ref hmem, hpool ref' hmem']
    exact hle

/-- Some of the references are in their order. -/
theorem sublist (h : pool.Ascends now refs) (hsub : refs'.Sublist refs) :
    pool.Ascends now refs' where
  past ref hmem := h.past ref (hsub.subset hmem)
  ordered := h.ordered.sublist hsub

/-- Who was read from just now comes last. -/
theorem append (h : pool.Ascends now refs) {ref : Ref} (href : pool.activity ref = some now) :
    pool.Ascends now (refs ++ [ref]) := by
  constructor
  · intro ref' hmem
    rcases List.mem_append.mp hmem with hmem | hmem
    · exact h.past ref' hmem
    · rw [List.mem_singleton.mp hmem]
      exact ⟨now, href, Nat.le_refl _⟩
  · rw [List.pairwise_append]
    refine ⟨h.ordered, List.pairwise_singleton _ _, fun ref' hmem last hlast t t' ht ht' => ?_⟩
    obtain ⟨t'', ht'', hle⟩ := h.past ref' hmem
    rw [List.mem_singleton.mp hlast, href] at ht'
    rw [ht''] at ht
    rw [← Option.some.inj ht, ← Option.some.inj ht']
    exact hle

end Ascends

end Pool

namespace Table

/-- The silent are those whose last read lies back by more than the span. -/
theorem isSilent_eq (pool : Pool) (now : Instant) (timeout : Duration) (ref : Ref) :
    isSilent pool now timeout ref =
      (pool.activity ref).any fun t => timeout.nanos < (now.since t).nanos := by
  unfold isSilent Pool.activity
  cases pool.get? ref <;> rfl

/-- Up to where a property holds is all of where it holds, if whoever stands before one that has it
has it too. -/
theorem takeWhile_eq_filter {α : Type} {p : α → Bool} {l : List α}
    (h : l.Pairwise fun a b => p b → p a) : l.takeWhile p = l.filter p := by
  induction l with
  | nil => rfl
  | cons a l ih =>
    obtain ⟨hhead, htail⟩ := List.pairwise_cons.mp h
    cases ha : p a with
    | true => rw [List.takeWhile_cons_of_pos ha, List.filter_cons_of_pos ha, ih htail]
    | false =>
      have hnone : l.filter p = [] := by
        rw [List.filter_eq_nil_iff]
        intro b hb hpb
        exact Bool.false_ne_true (ha.symm.trans (hhead b hb hpb))
      rw [List.takeWhile_cons_of_neg (Bool.eq_false_iff.mp ha),
        List.filter_cons_of_neg (Bool.eq_false_iff.mp ha), hnone]

/-- In a table in the order of last reads, the sweep finds all who are silent, whatever the moment
that it looks at. -/
theorem expired_eq_filter {t : Table} {pool : Pool} {now : Instant} (h : pool.Ascends now t.refs)
    (now' : Instant) (timeout : Duration) :
    t.expired pool now' timeout = t.refs.filter (isSilent pool now' timeout) := by
  unfold expired
  apply takeWhile_eq_filter
  apply h.ordered.imp_of_mem
  intro ref ref' hmem hmem' hle hsilent
  obtain ⟨u, hu, -⟩ := h.past ref hmem
  obtain ⟨u', hu', -⟩ := h.past ref' hmem'
  have hbefore : u.nanos ≤ u'.nanos := hle u u' hu hu'
  rw [isSilent_eq, hu', Option.any_some, decide_eq_true_eq] at hsilent
  rw [isSilent_eq, hu, Option.any_some, decide_eq_true_eq]
  simp only [Instant.since] at hsilent ⊢
  omega

end Table

end NetSession
