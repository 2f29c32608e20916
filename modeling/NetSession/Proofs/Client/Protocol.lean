import NetSession.Client.Basic

/-!
# The protocol of callbacks

For each attempt to connect, a client calls its handler in a `Cycle`: either no connection could be
made, or there was one, with what was read and heartbeats in between. Both end with the closing and
the closed callback. A log keeps to the protocol (`Protocol`) if it goes on to whole cycles. `Spot`
says how far the cycle at hand is, `Spot.next` which callback may come next, and `Spoken.call` that
a log that grows by such callbacks keeps to the protocol.
-/

namespace NetSession.Client

/-- The state that a client is in while it runs a callback. -/
def Callback.state : Callback → State
  | .connectFailed _ => .connecting
  | .connected | .received _ | .heartbeat _ => .connected
  | .closing => .closing
  | .closed => .disconnected

/-- Whether a callback is one of those that come while there is a connection, any number of
times. -/
def Callback.isTraffic : Callback → Bool
  | .received _ | .heartbeat _ => true
  | _ => false

/-- What is called about one attempt to connect. -/
inductive Cycle : List Callback → Prop where
  /-- No connection could be made. -/
  | failed (cause : String) : Cycle [.connectFailed cause, .closing, .closed]
  /-- There was a connection. -/
  | connected (traffic : List Callback) (h : ∀ callback ∈ traffic, callback.isTraffic) :
      Cycle (.connected :: traffic ++ [.closing, .closed])

/-- A log is the beginning of a sequence of cycles. -/
def Protocol (log : List Callback) : Prop :=
  ∃ cycles : List (List Callback), (∀ cycle ∈ cycles, Cycle cycle) ∧ log <+: cycles.flatten

/-- How far the cycle at hand is. -/
inductive Spot where
  /-- None has begun. -/
  | apart
  /-- It was called that no connection could be made. -/
  | failing
  /-- It was called that there is a connection. -/
  | connected
  /-- It was called that it closes. -/
  | closing
  deriving DecidableEq

/-- How far the cycle is after one more callback, if that may come. -/
def Spot.next : Spot → Callback → Option Spot
  | .apart, .connectFailed _ => some .failing
  | .apart, .connected => some .connected
  | .connected, .received _ | .connected, .heartbeat _ => some .connected
  | .failing, .closing | .connected, .closing => some .closing
  | .closing, .closed => some .apart
  | _, _ => none

/-- The part of a cycle that was called when it is this far. -/
inductive Begun : Spot → List Callback → Prop where
  /-- Nothing was called. -/
  | apart : Begun .apart []
  /-- It was called that no connection could be made. -/
  | failing (cause : String) : Begun .failing [.connectFailed cause]
  /-- It was called that there is a connection, and about what came since. -/
  | connected (traffic : List Callback) (h : ∀ callback ∈ traffic, callback.isTraffic) :
      Begun .connected (.connected :: traffic)
  /-- All but the last was called. -/
  | closing {log : List Callback} (h : Cycle (log ++ [.closed])) : Begun .closing log

variable {spot spot' : Spot} {log : List Callback} {callback : Callback}

/-- A cycle that has begun can go on to its end. -/
theorem Begun.exists_cycle (h : Begun spot log) :
    ∃ rest, log ++ rest = [] ∨ Cycle (log ++ rest) := by
  cases h with
  | apart => exact ⟨[], .inl rfl⟩
  | failing cause => exact ⟨[.closing, .closed], .inr (.failed cause)⟩
  | connected traffic h => exact ⟨[.closing, .closed], .inr (.connected traffic h)⟩
  | closing h => exact ⟨[.closed], .inr h⟩

/-- One more callback brings a cycle further, or to its end. -/
theorem Begun.call (h : Begun spot log) (hnext : spot.next callback = some spot') :
    Begun spot' (log ++ [callback]) ∨ spot' = .apart ∧ Cycle (log ++ [callback]) := by
  cases h with
  | apart =>
    cases callback with
    | connectFailed cause =>
      obtain rfl := Option.some.inj hnext
      exact .inl (.failing cause)
    | connected =>
      obtain rfl := Option.some.inj hnext
      exact .inl (.connected [] (by simp))
    | received | closing | closed | heartbeat => exact nomatch hnext
  | failing cause =>
    cases callback with
    | closing =>
      obtain rfl := Option.some.inj hnext
      exact .inl (.closing (.failed cause))
    | connected | connectFailed | received | closed | heartbeat => exact nomatch hnext
  | connected traffic h =>
    -- Reads and heartbeats make the cycle longer without bringing it further.
    have hmore (hcallback : callback.isTraffic) :
        Begun .connected (.connected :: traffic ++ [callback]) := by
      apply Begun.connected (traffic ++ [callback])
      rw [List.forall_mem_append, List.forall_mem_singleton]
      exact ⟨h, hcallback⟩
    cases callback with
    | received | heartbeat =>
      obtain rfl := Option.some.inj hnext
      exact .inl (hmore rfl)
    | closing =>
      obtain rfl := Option.some.inj hnext
      refine .inl (.closing ?_)
      rw [List.append_assoc]
      exact .connected traffic h
    | connected | connectFailed | closed => exact nomatch hnext
  | closing h =>
    cases callback with
    | closed =>
      obtain rfl := Option.some.inj hnext
      exact .inr ⟨rfl, h⟩
    | connected | connectFailed | received | closing | heartbeat => exact nomatch hnext

/-- A log of whole cycles, and of one that is this far. -/
def Spoken (spot : Spot) (log : List Callback) : Prop :=
  ∃ (cycles : List (List Callback)) (tail : List Callback),
    (∀ cycle ∈ cycles, Cycle cycle) ∧ log = cycles.flatten ++ tail ∧ Begun spot tail

namespace Spoken

/-- At first nothing was called. -/
theorem nil : Spoken .apart [] := ⟨[], [], by simp, rfl, .apart⟩

/-- One more callback that may come brings the log further. -/
theorem call (h : Spoken spot log) (hnext : spot.next callback = some spot') :
    Spoken spot' (log ++ [callback]) := by
  obtain ⟨cycles, tail, hcycles, rfl, hbegun⟩ := h
  rcases hbegun.call hnext with hbegun' | ⟨rfl, hcycle⟩
  · exact ⟨cycles, tail ++ [callback], hcycles, List.append_assoc _ _ _, hbegun'⟩
  · -- The cycle at hand is one of the whole ones now.
    refine ⟨cycles ++ [tail ++ [callback]], [], ?_, by simp, .apart⟩
    rw [List.forall_mem_append, List.forall_mem_singleton]
    exact ⟨hcycles, hcycle⟩

/-- Such a log keeps to the protocol. -/
theorem protocol (h : Spoken spot log) : Protocol log := by
  obtain ⟨cycles, tail, hcycles, rfl, hbegun⟩ := h
  obtain ⟨rest, hnil | hcycle⟩ := hbegun.exists_cycle
  · obtain ⟨rfl, -⟩ := List.append_eq_nil_iff.mp hnil
    exact ⟨cycles, hcycles, by simp⟩
  · refine ⟨cycles ++ [tail ++ rest], ?_, rest, by simp⟩
    rw [List.forall_mem_append, List.forall_mem_singleton]
    exact ⟨hcycles, hcycle⟩

end Spoken

end NetSession.Client
