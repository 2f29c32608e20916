import NetSession.Proofs.Server.Changes

/-!
# Reactions that spare a connection

A handler may send on any connection and write into its extension block, whatever it is called for.
If it does neither to some connection (`Reaction.Spares`), then nothing that happens to others
changes that one. `get?_evictEach` says so of the sweep for silent connections.
-/

namespace NetSession.Server

variable {σ τ : Type}

/-- Nothing is sent on a connection, and nothing is written into its extension block. -/
def Reaction.Spares (id : ConnId) : Reaction τ → Prop
  | .done _ => True
  | .look _ next => ∀ c, (next c).Spares id
  | .send id' _ next => id' ≠ id ∧ ∀ ok, (next ok).Spares id
  | .close _ next => ∀ ok, (next ok).Spares id
  | .writeExtra id' _ next => id' ≠ id ∧ next.Spares id
  | .keep _ next | .release _ next | .say _ next => next.Spares id

/-- A handler that spares a connection in all its reactions. -/
def Handler.Spares (handler : Handler σ) (id : ConnId) : Prop :=
  ∀ callback memory, (handler callback memory).Spares id

/-- To send changes no other connection. -/
theorem get?_send {pool : Pool} {id id' : ConnId} (hne : id' ≠ id) (data : Bytes) :
    (pool.send id' data).2.get? id = pool.get? id := by
  unfold Pool.send
  cases pool.get? id' with
  | none => rfl
  | some c =>
    cases hsend : c.send data with
    | error => simp only [hsend]
    | ok c' =>
      simp only [hsend]
      rw [Pool.get?_set, if_neg hne.symm]

/-- A reaction that spares a connection leaves it as it is. -/
theorem get?_perform {id : ConnId} (s : Server σ) {reaction : Reaction τ} (h : reaction.Spares id) :
    (s.perform reaction).2.pool.get? id = s.pool.get? id := by
  induction reaction generalizing s with
  | done => rfl
  | look id' next ih => exact ih _ s (h _)
  | send id' data next ih => exact (ih _ _ (h.2 _)).trans (get?_send h.1 data)
  | close id' next ih => exact (ih _ _ (h _)).trans (Pool.get?_askClose s.pool id' id)
  | writeExtra id' data next ih =>
    have hwrite := Pool.get?_modify s.pool id' id (·.writeExtra data)
    rw [if_neg h.1.symm] at hwrite
    exact (ih _ h.2).trans hwrite
  | keep _ next ih | release _ next ih | say _ next ih => exact ih _ h

variable {s : Server σ} {id id' : ConnId}

/-- A callback whose reaction spares a connection leaves it as it is. -/
theorem get?_call (h : s.handler.Spares id) (callback : Callback) :
    (s.call callback).pool.get? id = s.pool.get? id :=
  get?_perform (s.note (.called callback)) (h callback s.memory)

/-- A handler stays the same when a connection begins to close. -/
theorem handler_disconnect (s : Server σ) (id : ConnId) :
    (s.disconnect id).2.handler = s.handler := by
  cases hopen : s.pool.isOpen id with
  | false => rw [disconnect_of_not_isOpen hopen]
  | true =>
    rw [disconnect_of_isOpen hopen]
    exact (steady_call (s.setPool (s.pool.beginClose id).2) (.closing id)).handler

/-- A connection that begins to close changes no other one that is spared. -/
theorem get?_disconnect (h : s.handler.Spares id) (hne : id' ≠ id) :
    (s.disconnect id').2.pool.get? id = s.pool.get? id := by
  cases hopen : s.pool.isOpen id' with
  | false => rw [disconnect_of_not_isOpen hopen]
  | true =>
    rw [disconnect_of_isOpen hopen]
    have hmark : (s.pool.beginClose id').2.get? id = s.pool.get? id := by
      unfold Pool.beginClose
      split
      · rfl
      · rw [Pool.get?_set, if_neg hne.symm]
    have hcall := get?_call (s := s.setPool (s.pool.beginClose id').2) h (.closing id')
    have hsignal := Pool.get?_modify
      ((s.setPool (s.pool.beginClose id').2).call (.closing id')).pool id' id Connection.signalStop
    rw [if_neg hne.symm] at hsignal
    exact hsignal.trans (hcall.trans hmark)

/-- A connection that is spared, and does not begin to close, is as it was before the sweep. -/
theorem get?_evictEach {ids : List ConnId} (h : s.handler.Spares id)
    (hclosed : ∀ id' ∈ ids, id' = id → s.pool.isOpen id = false) :
    (s.evictEach ids).pool.get? id = s.pool.get? id := by
  induction ids generalizing s with
  | nil => rfl
  | cons id' ids ih =>
    have hhead : (s.disconnect id').2.pool.get? id = s.pool.get? id := by
      by_cases heq : id' = id
      · rw [heq, disconnect_of_not_isOpen (hclosed id' List.mem_cons_self heq)]
      · exact get?_disconnect h heq
    have hrest (next : Server σ) (hhandler : next.handler = s.handler)
        (hget : next.pool.get? id = s.pool.get? id) :
        (next.evictEach ids).pool.get? id = s.pool.get? id := by
      rw [← hget]
      apply ih (by rwa [hhandler])
      intro id'' hmem heq
      have hopen := hclosed id'' (List.mem_cons_of_mem id' hmem) heq
      unfold Pool.isOpen at hopen ⊢
      rwa [hget]
    simp only [evictEach]
    split
    · -- What is said in between changes no connection.
      have hsay : ((s.disconnect id').2.sayEvicted id').pool = (s.disconnect id').2.pool ∧
          ((s.disconnect id').2.sayEvicted id').handler = (s.disconnect id').2.handler := by
        unfold sayEvicted
        split <;> exact ⟨rfl, rfl⟩
      rw [← hsay.1] at hhead
      exact hrest _ (hsay.2.trans (handler_disconnect s id')) hhead
    · exact hrest _ (handler_disconnect s id') hhead

end NetSession.Server
