import NetSession.Proofs.Server.Changes

/-!
# Closing many connections

A server that closes all connections, or all silent ones, goes through a list. `Closes` says what it
leaves: of the connections in the list exactly those that were open are marked, told to stop, and
announced, once each and in the order of the list, and nothing else changes but what the handler
does about it. `closes_disconnectEach` and `closes_evictEach` are about the two ways through a list.
-/

namespace NetSession.Server

variable {σ : Type}

/-- The callback that is called. -/
def Happening.callback? : Happening → Option Callback
  | .called callback => some callback
  | _ => none

/-- The callbacks that were called, in order. -/
def calls (trace : List Happening) : List Callback := trace.filterMap Happening.callback?

/-- The callbacks that were called in one trace and then in another. -/
theorem calls_append (trace trace' : List Happening) :
    calls (trace ++ trace') = calls trace ++ calls trace' := List.filterMap_append

/-- Nothing minor is a call of a callback. -/
theorem filterMap_minor {α : Type} {pool : Pool} {l : List Happening} {f : Happening → Option α}
    (hl : ∀ e ∈ l, e.IsMinor pool) (hf : ∀ e, (∀ callback, e ≠ .called callback) → f e = none) :
    l.filterMap f = [] := by
  rw [List.filterMap_eq_nil_iff]
  intro e he
  apply hf e
  rintro callback rfl
  exact hl _ he

/-- No callback is called by what is minor. -/
theorem calls_minor {pool : Pool} {l : List Happening} (hl : ∀ e ∈ l, e.IsMinor pool) :
    calls l = [] := by
  apply filterMap_minor hl
  intro e he
  cases e with
  | called callback => exact absurd rfl (he callback)
  | returned | sent | asked | said | wrote | shut | reported => rfl

/-- The connection is marked and told to stop, if it is among some. -/
def closeIn (moved : List ConnId) (id : ConnId) (c : Connection) : Connection :=
  { c with
    closing := c.closing || moved.contains id
    link := { c.link with stop := c.link.stop || moved.contains id } }

/-- What is left when some open connections, in this order, have begun to close. -/
structure Closes (s s' : Server σ) (moved : List ConnId) : Prop where
  /-- The server runs as before. -/
  config : s'.config = s.config
  /-- No time has passed. -/
  now : s'.now = s.now
  /-- The table is the same. -/
  table : s'.roster.table = s.roster.table
  /-- The heartbeat did not tick. -/
  heartbeats : s'.heartbeats = s.heartbeats
  /-- Of what handlers cannot change, only the marks and signals of these connections have. -/
  outline : ∀ id, s'.pool.outline id = (s.pool.outline id).map (closeIn moved id)
  /-- Their closing callbacks were called, and no other callbacks. -/
  trace : ∃ l, s'.trace = s.trace ++ l ∧ calls l = moved.map .closing

namespace Closes

variable {s s' s'' : Server σ} {moved moved' : List ConnId}

/-- Nobody is closed by what is steady. -/
theorem of_steady (h : Steady s s') : Closes s s' [] where
  config := h.config
  now := h.now
  table := h.table
  heartbeats := h.heartbeats
  outline id := by
    rw [h.outline]
    cases s.pool.outline id with
    | none => rfl
    | some c =>
      have hsame : closeIn [] id c = c := by simp [closeIn]
      rw [Option.map_some, hsame]
  trace := by
    obtain ⟨l, hl, hminor⟩ := h.trace
    exact ⟨l, hl, calls_minor hminor⟩

/-- Some are closed after others. -/
theorem trans (h : Closes s s' moved) (h' : Closes s' s'' moved') :
    Closes s s'' (moved ++ moved') where
  config := h'.config.trans h.config
  now := h'.now.trans h.now
  table := h'.table.trans h.table
  heartbeats := h'.heartbeats.trans h.heartbeats
  outline id := by
    rw [h'.outline, h.outline, Option.map_map]
    congr 1
    funext c
    simp [closeIn, Bool.or_assoc]
  trace := by
    obtain ⟨l, hl, hmoved⟩ := h.trace
    obtain ⟨l', hl', hmoved'⟩ := h'.trace
    refine ⟨l ++ l', by rw [hl', hl, List.append_assoc], ?_⟩
    rw [calls_append, hmoved, hmoved', List.map_append]

/-- Who is open afterwards was open before, and is not among them. -/
theorem isOpen (h : Closes s s' moved) (id : ConnId) :
    s'.pool.isOpen id = (s.pool.isOpen id && !moved.contains id) := by
  rw [Pool.isOpen_eq, Pool.isOpen_eq, h.outline]
  cases s.pool.outline id with
  | none => rfl
  | some c => simp [closeIn]

/-- Who is closing afterwards was closing before, or is among them. -/
theorem isClosing (h : Closes s s' moved) (id : ConnId) :
    s'.pool.isClosing id = (s.pool.outline id).any fun c => c.closing || moved.contains id := by
  rw [Pool.isClosing_eq, h.outline]
  cases s.pool.outline id <;> rfl

end Closes

variable {s : Server σ}

/-- A connection that is open is marked, announced, and told to stop. -/
theorem closes_disconnect (s : Server σ) (id : ConnId) :
    Closes s (s.disconnect id).2 (if s.pool.isOpen id then [id] else []) := by
  cases hopen : s.pool.isOpen id with
  | false =>
    rw [disconnect_of_not_isOpen hopen]
    exact .of_steady (.refl s)
  | true =>
    rw [disconnect_of_isOpen hopen, if_pos rfl]
    have hcall := steady_call (s.setPool (s.pool.beginClose id).2) (.closing id)
    -- The signal comes last.
    have hsignal (pool : Pool) (id' : ConnId) :
        (pool.modify id Connection.signalStop).outline id' =
          if id' = id then (pool.outline id).map Connection.signalStop else pool.outline id' :=
      Pool.outline_modify (f := Connection.signalStop) (g := Connection.signalStop) pool id
        (fun _ => rfl) id'
    constructor
    · exact hcall.config
    · exact hcall.now
    · exact hcall.table
    · exact hcall.heartbeats
    · intro id'
      refine (hsignal _ id').trans ?_
      rw [hcall.outline, hcall.outline]
      change (if id' = id then ((s.pool.beginClose id).2.outline id).map Connection.signalStop
        else (s.pool.beginClose id).2.outline id') = _
      rw [Pool.outline_beginClose, Pool.outline_beginClose, if_pos rfl]
      split
      · next heq =>
        rw [heq, Option.map_map]
        congr 1
        funext c
        simp [closeIn, Connection.signalStop, Link.signal]
      · next hne =>
        have hsame : closeIn [id] id' = fun c => c := by
          funext c
          simp [closeIn, hne]
        rw [hsame, Option.map_id']
    · obtain ⟨l, hl, hminor⟩ := hcall.trace
      refine ⟨.called (.closing id) :: l, hl.trans (List.append_assoc _ _ _), ?_⟩
      have hrest : calls l = [] := calls_minor hminor
      unfold calls at hrest ⊢
      rw [List.filterMap_cons, hrest]
      rfl

/-- Of distinct connections, those behind the first one are open as they were before. -/
theorem filter_isOpen_disconnect {id : ConnId} {ids : List ConnId} (h : id ∉ ids) :
    ids.filter (s.disconnect id).2.pool.isOpen = ids.filter s.pool.isOpen := by
  apply List.filter_congr
  intro id' hmem
  have hne : id' ≠ id := fun heq => h (heq ▸ hmem)
  rw [(closes_disconnect s id).isOpen]
  split
  · simp [hne]
  · simp

/-- The first connection of a list is closed if it is open. -/
theorem filter_cons_eq {ids : List ConnId} {p : ConnId → Bool} (id : ConnId) :
    (id :: ids).filter p = (if p id then [id] else []) ++ ids.filter p := by
  rw [List.filter_cons]
  split <;> rfl

/-- All open connections of a list begin to close, and are counted. -/
theorem closes_disconnectEach {ids : List ConnId} (hids : ids.Nodup) :
    Closes s (s.disconnectEach ids).2 (ids.filter s.pool.isOpen) ∧
      (s.disconnectEach ids).1 = (ids.filter s.pool.isOpen).length := by
  induction ids generalizing s with
  | nil => exact ⟨.of_steady (.refl s), rfl⟩
  | cons id ids ih =>
    obtain ⟨hid, hids⟩ := List.nodup_cons.mp hids
    obtain ⟨hrest, hcount⟩ := ih (s := (s.disconnect id).2) hids
    rw [filter_isOpen_disconnect hid] at hrest hcount
    rw [filter_cons_eq]
    refine ⟨(closes_disconnect s id).trans hrest, ?_⟩
    simp only [disconnectEach, hcount, List.length_append]
    cases hopen : s.pool.isOpen id with
    | false => rw [disconnect_of_not_isOpen hopen]; simp
    | true => rw [disconnect_of_isOpen hopen]; simp [Nat.add_comm]

/-- All open connections of a list begin to close. -/
theorem closes_evictEach {ids : List ConnId} (hids : ids.Nodup) :
    Closes s (s.evictEach ids) (ids.filter s.pool.isOpen) := by
  induction ids generalizing s with
  | nil => exact .of_steady (.refl s)
  | cons id ids ih =>
    obtain ⟨hid, hids⟩ := List.nodup_cons.mp hids
    have hrest := ih (s := (s.disconnect id).2) hids
    rw [filter_isOpen_disconnect hid] at hrest
    rw [filter_cons_eq]
    refine (closes_disconnect s id).trans ?_
    simp only [evictEach]
    split
    · -- What is said in between changes nothing.
      have hsay := (s.disconnect id).2.steady_sayEvicted id
      have hsaid := ih (s := (s.disconnect id).2.sayEvicted id) hids
      have hsame : ids.filter ((s.disconnect id).2.sayEvicted id).pool.isOpen =
          ids.filter s.pool.isOpen :=
        (List.filter_congr fun id' _ => hsay.isOpen id').trans (filter_isOpen_disconnect hid)
      rw [hsame] at hsaid
      exact (Closes.of_steady hsay).trans hsaid
    · exact hrest

end NetSession.Server
