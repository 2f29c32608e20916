import NetSession.Connection.Pool
import NetSession.Proofs.Connection.Ascending

/-!
# What a pool has after a change

Each change of a pool is described by what `Pool.get?` finds afterwards behind a reference.
-/

namespace NetSession.Pool

variable (pool : Pool) (ref ref' : Ref) (c : Connection) (f : Connection → Connection)

/-- What is put behind a reference is found there, and nothing else changes. -/
theorem get?_set : (pool.set ref c).get? ref' = if ref' = ref then some c else pool.get? ref' :=
  Ascending.getElem?_insert _ _ _ _

/-- Only the connection behind the reference is changed, if there is one. -/
theorem get?_modify :
    (pool.modify ref f).get? ref' =
      if ref' = ref then (pool.get? ref).map f else pool.get? ref' := by
  cases hget : pool.get? ref with
  | none =>
    simp only [modify, hget]
    split
    · next heq => rw [heq, hget]; rfl
    · rfl
  | some c =>
    simp only [modify, hget]
    exact get?_set _ _ _ _

/-- To change a connection asks for nothing. -/
theorem requests_modify : (pool.modify ref f).requests = pool.requests := by
  rw [modify]
  cases pool.get? ref <;> rfl

/-- To ask for a connection to be closed changes no connection. -/
theorem get?_askClose : (pool.askClose ref).2.get? ref' = pool.get? ref' := by
  rw [askClose]
  cases pool.get? ref with
  | none => rfl
  | some c => cases hserved : c.served <;> simp only [hserved] <;> rfl

end NetSession.Pool
