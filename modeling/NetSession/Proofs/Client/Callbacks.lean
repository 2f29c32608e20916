import NetSession.Proofs.Client.Runs
import NetSession.Proofs.Client.Whole

/-!
# What a handler of a client can rely on

The main result is `callbacks_keep_protocol`. In any run, the callbacks of a client are the
beginning of a sequence of cycles, one for each attempt whose outcome was taken in, and heartbeats
are counted across all of them. Each callback is called in its state. Whatever else goes on, a
payload can be sent exactly while the client is connected.
-/

namespace NetSession.Client

variable {σ : Type}

/-- The callbacks of a client keep to the protocol, and payloads can be sent while it is
connected. -/
structure KeepsProtocol (c : Client σ) : Prop where
  /-- The callbacks are the beginning of a sequence of cycles. -/
  protocol : Protocol (calls c.trace)
  /-- The indices of heartbeats ascend from zero, and none is left out. -/
  beats : beats c.trace = List.range c.heartbeats
  /-- Each callback was called in its state. -/
  seen : ∀ callback state, .called callback state ∈ c.trace → state = callback.state
  /-- A payload can be sent if and only if the client is connected. -/
  send : ∀ data, (c.send data).1 = c.isConnected

variable {c : Client σ}

/-- Without an outlet nothing can be sent. -/
theorem send_of_outlet_none (h : c.outlet = none) (data : Bytes) : (c.send data).1 = false := by
  simp only [Client.send, enqueue, outgoing?, h, Option.bind_eq_bind, Option.bind_none]

/-- A payload can be sent on a link that has its queue. -/
theorem send_of_link {attempt : Nat} {stop : Bool} (h : c.outlet = some attempt)
    (hlink : c.links[attempt]?.map Link.outline = some (stop, true)) (data : Bytes) :
    (c.send data).1 = true := by
  obtain ⟨link, hget, houtline⟩ := Option.map_eq_some_iff.mp hlink
  have hsome : link.queue.isSome = true := (Prod.mk.inj houtline).2
  obtain ⟨waiting, hqueue⟩ := Option.isSome_iff_exists.mp hsome
  have houtgoing : c.outgoing? = some (attempt, link) := by
    simp only [outgoing?, h, hget, Option.bind_eq_bind, Option.bind_some]
    rfl
  simp only [Client.send, enqueue, houtgoing, Link.push?, hqueue, Option.map_some]

namespace Machine

variable {m : Machine σ}

/-- A situated machine can send exactly while its client is connected. -/
theorem Situated.send_eq (h : m.Situated) (data : Bytes) :
    (m.client.send data).1 = m.client.isConnected := by
  unfold isConnected
  cases h with
  | stopped hstopped =>
    rw [send_of_outlet_none hstopped.outlet, hstopped.state]
    rfl
  | running scene hrunning hsound =>
    have houtlet := hsound.outlet
    rw [hsound.state]
    cases scene with
    | opening => exact send_of_link houtlet hsound.task.2.2 data
    | opened => exact send_of_link houtlet hsound.task.2.1 data
    | resting | dialing | answered | failing | failed | hanging | closing =>
      exact send_of_outlet_none houtlet data

/-- The callbacks of a situated machine keep to the protocol. -/
theorem Situated.keepsProtocol (h : m.Situated) : m.client.KeepsProtocol := by
  obtain ⟨spot, hrecorded⟩ := h.recorded
  exact ⟨hrecorded.spoken.protocol, hrecorded.beats, hrecorded.seen, h.send_eq⟩

/-- In a callback, the client of a situated machine is in the state of the callback. -/
theorem Situated.state_of_stage (h : m.Situated) {callback : Callback} {rest : Reaction σ}
    (hstage : m.stage = some (callback, rest)) : m.client.state = callback.state := by
  cases h with
  | running scene hrunning hsound =>
    have htag : m.tag = some callback := by
      rw [tag, hstage]
      rfl
    exact hsound.state.trans (hsound.inside callback htag).symm
  | stopped hstopped => cases hstopped.stage.symm.trans hstage

end Machine

/-- In any run of a client, its callbacks keep to the protocol, heartbeats are counted without a
gap, each callback runs in its state from its call until it returns, and a payload can be sent
exactly while the client is connected. This is so after all small steps, so in the middle of
callbacks as well, and after all whole steps. -/
theorem callbacks_keep_protocol (config : ClientConfig) (target : Endpoint) (handler : Handler σ)
    (memory : σ) (now : Instant) :
    (∀ turns m, (Machine.start config target handler memory now).run turns = some m →
      m.client.KeepsProtocol ∧
      ∀ callback rest, m.stage = some (callback, rest) → m.client.state = callback.state) ∧
    ∀ moves y, (System.start config target handler memory now).run moves = some y →
      y.client.KeepsProtocol := by
  refine ⟨fun turns m hrun => ?_, fun moves y hrun => ?_⟩
  · have hsituated := Machine.situated_of_run hrun
    exact ⟨hsituated.keepsProtocol, fun callback rest => hsituated.state_of_stage⟩
  · -- A run of the system is one of the machine, which is at nothing in the end.
    obtain ⟨turns, hturns, -⟩ := Machine.reaches_of_run hrun
    have hsituated : (⟨y, none, []⟩ : Machine σ).Situated := Machine.situated_of_run hturns
    exact hsituated.keepsProtocol

/-- Steps in which an attempt fails, and the next one brings a connection, over which something is
read before the heartbeat ticks. -/
def secondTryTurns : List Turn :=
  [.move (.refuse 1 "refused"), .move .handle, .proceed, .proceed, .proceed, .proceed, .proceed,
    .proceed, .move (.pass (.ofMillis 1)), .move .tick, .move (.connect 2), .move .handle, .proceed,
    .proceed, .proceed, .move (.receive 2 [7]), .move (.stream 2 .go), .move (.stream 2 .go),
    .move (.stream 2 (.read 1)), .move .handle, .proceed, .proceed, .move (.pass (.ofMillis 1)),
    .move .tick]

/-- The same in whole steps. -/
def secondTryMoves : List Move :=
  [.refuse 1 "refused", .handle, .pass (.ofMillis 1), .tick, .connect 2, .handle, .receive 2 [7],
    .stream 2 .go, .stream 2 .go, .stream 2 (.read 1), .handle, .pass (.ofMillis 1), .tick]

/-- In these steps, what is called keeps to the protocol, and in the heartbeat the client is
connected. -/
theorem callbacks_keep_protocol_second_try :
    (∃ m, (Machine.start { heartbeatInterval := .ofMillis 1 } .unspecifiedV4 Handler.silent ()
        .zero).run secondTryTurns = some m ∧
      calls m.client.trace = [.connectFailed "refused", .closing, .closed, .connected,
        .received [7], .heartbeat 0] ∧
      m.client.state = .connected ∧ Protocol (calls m.client.trace)) ∧
    ∃ y, (System.start { heartbeatInterval := .ofMillis 1 } .unspecifiedV4 Handler.silent ()
        .zero).run secondTryMoves = some y ∧
      beats y.client.trace = [0] ∧ Protocol (calls y.client.trace) := by
  obtain ⟨hmachine, hsystem⟩ := callbacks_keep_protocol { heartbeatInterval := .ofMillis 1 }
    .unspecifiedV4 Handler.silent () .zero
  constructor
  · obtain ⟨m, hrun, hcalls, callback, rest, hstage, hstate⟩ :
        ∃ m, (Machine.start { heartbeatInterval := .ofMillis 1 } .unspecifiedV4 Handler.silent ()
            .zero).run secondTryTurns = some m ∧
          calls m.client.trace = [.connectFailed "refused", .closing, .closed, .connected,
            .received [7], .heartbeat 0] ∧
          ∃ callback rest, m.stage = some (callback, rest) ∧ callback.state = .connected :=
      ⟨_, rfl, rfl, _, _, rfl, rfl⟩
    obtain ⟨hkeeps, hinside⟩ := hmachine _ m hrun
    exact ⟨m, hrun, hcalls, (hinside callback rest hstage).trans hstate, hkeeps.protocol⟩
  · obtain ⟨y, hrun, hbeats⟩ :
        ∃ y, (System.start { heartbeatInterval := .ofMillis 1 } .unspecifiedV4 Handler.silent ()
            .zero).run secondTryMoves = some y ∧ beats y.client.trace = [0] :=
      ⟨_, rfl, rfl⟩
    exact ⟨y, hrun, hbeats, (hsystem _ y hrun).protocol⟩

end NetSession.Client
