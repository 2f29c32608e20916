import NetSession.Proofs.Client.Machine
import NetSession.Proofs.Client.Protocol
import NetSession.Proofs.Connection.Ascending

/-!
# What a client has written down

Most of what happens to a client is `Calm`: something is said or queued, someone asks for something,
and the client stays in its state. `Recorded` says that what a client has written down fits the
callbacks that may come next, its count of heartbeats and its count of attempts. Calm changes keep
it (`Recorded.minor`), and callbacks and attempts carry it on (`Recorded.call`, `Recorded.dial`).
-/

namespace NetSession

/-- Whether the signal to stop is there, and whether the queue is. -/
def Link.outline (link : Link) : Bool × Bool := (link.stop, link.queue.isSome)

namespace Client

variable {σ τ : Type}

/-- Whether something that happened is neither a call of a callback nor an attempt. -/
def Happening.IsMinor : Happening → Prop
  | .called _ _ | .dialed _ => False
  | _ => True

/-- The callback that is called. -/
def Happening.callback? : Happening → Option Callback
  | .called callback _ => some callback
  | _ => none

/-- The attempt that is begun. -/
def Happening.dialed? : Happening → Option Nat
  | .dialed attempt => some attempt
  | _ => none

/-- The index of a heartbeat. -/
def Callback.beat? : Callback → Option Nat
  | .heartbeat index => some index
  | _ => none

/-- The callbacks that were called, in order. -/
def calls (trace : List Happening) : List Callback := trace.filterMap Happening.callback?

/-- The attempts that were begun, in order. -/
def dialings (trace : List Happening) : List Nat := trace.filterMap Happening.dialed?

/-- The indices of the heartbeats, in order. -/
def beats (trace : List Happening) : List Nat := (calls trace).filterMap Callback.beat?

/-- What is minor is neither among the callbacks nor among the attempts. -/
theorem Happening.IsMinor.eq_none {e : Happening} (h : e.IsMinor) :
    e.callback? = none ∧ e.dialed? = none := by
  cases e with
  | called | dialed => exact h.elim
  | sent | asked | said | wrote | shut | reported => exact ⟨rfl, rfl⟩

section Trace

variable {trace l : List Happening} (hl : ∀ e ∈ l, e.IsMinor)

include hl

/-- No callback is called by what is minor. -/
theorem calls_append_minor : calls (trace ++ l) = calls trace := by
  have hnone : l.filterMap Happening.callback? = [] :=
    List.filterMap_eq_nil_iff.mpr fun e he => (hl e he).eq_none.1
  rw [calls, List.filterMap_append, hnone, List.append_nil]
  rfl

/-- No attempt is begun by what is minor. -/
theorem dialings_append_minor : dialings (trace ++ l) = dialings trace := by
  have hnone : l.filterMap Happening.dialed? = [] :=
    List.filterMap_eq_nil_iff.mpr fun e he => (hl e he).eq_none.2
  rw [dialings, List.filterMap_append, hnone, List.append_nil]
  rfl

end Trace

/-! ## Calm changes -/

/-- Between two states of a client, at most something was said, queued or asked for. -/
structure Calm (c c' : Client σ) : Prop where
  /-- It runs as before. -/
  config : c'.config = c.config
  /-- It is in the same state. -/
  state : c'.state = c.state
  /-- No attempt was begun. -/
  attempt : c'.attempt = c.attempt
  /-- Payloads go the same way. -/
  outlet : c'.outlet = c.outlet
  /-- The same task can be told to stop. -/
  stopper : c'.stopper = c.stopper
  /-- The heartbeat did not tick. -/
  heartbeats : c'.heartbeats = c.heartbeats
  /-- It has not begun to shut down. -/
  stopping : c'.stopping = c.stopping
  /-- No signal was given or taken, and no queue given up. -/
  links : ∀ a : Nat, c'.links[a]?.map Link.outline = c.links[a]?.map Link.outline
  /-- Only what is minor was written down. -/
  trace : ∃ l, c'.trace = c.trace ++ l ∧ ∀ e ∈ l, e.IsMinor

namespace Calm

variable {c c' c'' : Client σ}

/-- Nothing happens in no time. -/
theorem refl (c : Client σ) : Calm c c :=
  ⟨rfl, rfl, rfl, rfl, rfl, rfl, rfl, fun _ => rfl, [], (List.append_nil _).symm,
    fun _ h => absurd h List.not_mem_nil⟩

/-- One calm change after another is a calm change. -/
theorem trans (h : Calm c c') (h' : Calm c' c'') : Calm c c'' where
  config := h'.config.trans h.config
  state := h'.state.trans h.state
  attempt := h'.attempt.trans h.attempt
  outlet := h'.outlet.trans h.outlet
  stopper := h'.stopper.trans h.stopper
  heartbeats := h'.heartbeats.trans h.heartbeats
  stopping := h'.stopping.trans h.stopping
  links a := (h'.links a).trans (h.links a)
  trace := by
    obtain ⟨l, hl, hminor⟩ := h.trace
    obtain ⟨l', hl', hminor'⟩ := h'.trace
    refine ⟨l ++ l', by rw [hl', hl, List.append_assoc], ?_⟩
    rw [List.forall_mem_append]
    exact ⟨hminor, hminor'⟩

/-- Something minor is written down. -/
theorem note (c : Client σ) {e : Happening} (he : e.IsMinor) : Calm c (c.note e) :=
  ⟨rfl, rfl, rfl, rfl, rfl, rfl, rfl, fun _ => rfl, [e], rfl, by simpa using he⟩

end Calm

variable (c : Client σ)

/-- To say something is calm. -/
theorem calm_say (severity : Console.Severity) (message : String) :
    Calm c (c.say severity message) :=
  .note c trivial

/-- To ask for a shutdown is calm. -/
theorem calm_askShutdown : Calm c c.askShutdown :=
  have hrequests : Calm c { c with requests := c.requests + 1 } :=
    ⟨rfl, rfl, rfl, rfl, rfl, rfl, rfl, fun _ => rfl, (Calm.refl c).trace⟩
  hrequests.trans (.note _ trivial)

/-- To queue a payload is calm. -/
theorem calm_enqueue {c c' : Client σ} {data : Bytes} (h : c.enqueue data = .ok c') :
    Calm c c' := by
  unfold enqueue at h
  split at h
  · exact nomatch h
  · next attempt link hlink =>
    obtain ⟨attempt', -, hfound⟩ := Option.bind_eq_some_iff.mp hlink
    obtain ⟨link', hget, heq⟩ := Option.bind_eq_some_iff.mp hfound
    obtain ⟨rfl, rfl⟩ := Prod.mk.inj (Option.some.inj heq)
    split at h
    · exact nomatch h
    · next pushed hpush =>
      obtain rfl := Except.ok.inj h
      obtain ⟨waiting, hqueue, rfl⟩ := Option.map_eq_some_iff.mp hpush
      refine ⟨rfl, rfl, rfl, rfl, rfl, rfl, rfl, fun a => ?_, (Calm.refl c).trace⟩
      -- The signal is as it was, and the queue is there before and after.
      change (c.links.insert attempt' _)[a]?.map _ = _
      rw [Ascending.getElem?_insert]
      split
      · next heq =>
        rw [heq, hget]
        simp [Link.outline, hqueue]
      · rfl

/-- To send is calm. -/
theorem calm_send (data : Bytes) : Calm c (c.send data).2 := by
  unfold send
  split
  · next c' hsend => exact (calm_enqueue hsend).trans (.note _ trivial)
  · exact .note c trivial

/-- The first thing that a reaction asks for is calm. -/
theorem calm_advance {c c' : Client σ} {reaction : Reaction τ} {result : τ ⊕ Reaction τ}
    (h : c.advance reaction = (result, c')) : Calm c c' := by
  obtain rfl : (c.advance reaction).2 = c' := congrArg Prod.snd h
  cases reaction with
  | done | look => exact .refl c
  | send data next => exact calm_send c data
  | shutdown next => exact calm_askShutdown c
  | say notice next => exact .note c trivial

/-- All that a reaction asks for is calm. -/
theorem calm_perform (reaction : Reaction τ) : Calm c (c.perform reaction).2 := by
  induction reaction generalizing c with
  | done => exact .refl c
  | look next ih => exact ih _ c
  | send data next ih => exact (calm_send c data).trans (ih _ _)
  | shutdown next ih => exact (calm_askShutdown c).trans (ih _)
  | say notice next ih => exact (Calm.note (e := .said notice) c trivial).trans (ih _)

/-- To say why nothing more can be read is calm. -/
theorem calm_sayEnded (failure : Option String) : Calm c (c.sayEnded failure) := by
  cases failure <;> exact calm_say c _ _

/-- Where no attempt is begun, all attempts stay as they are. -/
theorem update_of_attempt_eq {y : System σ} {c : Client σ} (h : c.attempt = y.client.attempt) :
    y.update c = { y with client := c } := by
  unfold System.update
  rw [h, if_neg (Nat.lt_irrefl _)]

/-! ## The record -/

variable {c} {c' : Client σ} {spot spot' : Spot} {l : List Happening}

/-- What was written down fits how far the cycle of callbacks is, and what was counted. -/
structure Recorded (c : Client σ) (spot : Spot) : Prop where
  /-- The callbacks keep to the protocol. -/
  spoken : Spoken spot (calls c.trace)
  /-- The heartbeats were counted, and none was left out. -/
  beats : beats c.trace = List.range c.heartbeats
  /-- Each callback was called in its state. -/
  seen : ∀ callback state, .called callback state ∈ c.trace → state = callback.state
  /-- The attempts were counted from one on, and none was left out. -/
  dialed : dialings c.trace = List.range' 1 c.attempt

namespace Recorded

/-- What is minor may be written down at any time. -/
theorem minor (h : c.Recorded spot) (hheartbeats : c'.heartbeats = c.heartbeats)
    (hattempt : c'.attempt = c.attempt)
    (htrace : ∃ l, c'.trace = c.trace ++ l ∧ ∀ e ∈ l, e.IsMinor) : c'.Recorded spot := by
  obtain ⟨l, htrace, hl⟩ := htrace
  constructor
  · rw [htrace, calls_append_minor hl]
    exact h.spoken
  · rw [htrace, Client.beats, calls_append_minor hl, hheartbeats]
    exact h.beats
  · intro callback state hmem
    rw [htrace] at hmem
    rcases List.mem_append.mp hmem with hmem | hmem
    · exact h.seen callback state hmem
    · exact (hl _ hmem).elim
  · rw [htrace, dialings_append_minor hl, hattempt]
    exact h.dialed

/-- A calm change keeps the record. -/
theorem calm (h : c.Recorded spot) (hcalm : Calm c c') : c'.Recorded spot :=
  h.minor hcalm.heartbeats hcalm.attempt hcalm.trace

/-- A callback that may come next is called in its state. -/
theorem call (h : c.Recorded spot) {callback : Callback}
    (htrace : c'.trace = c.trace ++ [.called callback callback.state])
    (hnext : spot.next callback = some spot')
    (hbeats : List.range c.heartbeats ++ callback.beat?.toList = List.range c'.heartbeats)
    (hattempt : c'.attempt = c.attempt) : c'.Recorded spot' := by
  have hcalls : calls c'.trace = calls c.trace ++ [callback] := by
    rw [htrace, calls, List.filterMap_append]
    rfl
  constructor
  · rw [hcalls]
    exact h.spoken.call hnext
  · rw [Client.beats, hcalls, List.filterMap_append, ← Client.beats, h.beats, ← hbeats]
    cases hbeat : callback.beat? <;> simp [hbeat]
  · intro callback' state hmem
    rw [htrace] at hmem
    rcases List.mem_append.mp hmem with hmem | hmem
    · exact h.seen callback' state hmem
    · obtain ⟨rfl, rfl⟩ := Happening.called.inj (List.mem_singleton.mp hmem)
      rfl
  · rw [htrace, dialings, List.filterMap_append, hattempt]
    exact (List.append_nil _).trans h.dialed

/-- The next attempt is begun. -/
theorem dial (h : c.Recorded spot) (hl : ∀ e ∈ l, e.IsMinor)
    (htrace : c'.trace = c.trace ++ l ++ [.dialed (c.attempt + 1)])
    (hheartbeats : c'.heartbeats = c.heartbeats) (hattempt : c'.attempt = c.attempt + 1) :
    c'.Recorded spot := by
  have hcalls : calls c'.trace = calls c.trace := by
    rw [htrace, calls, List.filterMap_append, ← calls, calls_append_minor hl]
    exact List.append_nil _
  constructor
  · rw [hcalls]
    exact h.spoken
  · rw [Client.beats, hcalls, hheartbeats]
    exact h.beats
  · intro callback state hmem
    rw [htrace] at hmem
    rcases List.mem_append.mp hmem with hmem | hmem
    · rcases List.mem_append.mp hmem with hmem | hmem
      · exact h.seen callback state hmem
      · exact (hl _ hmem).elim
    · exact nomatch List.mem_singleton.mp hmem
  · rw [htrace, dialings, List.filterMap_append, ← dialings, dialings_append_minor hl, h.dialed,
      hattempt, List.range'_concat, Nat.one_mul, Nat.add_comm 1]
    rfl

end Recorded

end Client

end NetSession
