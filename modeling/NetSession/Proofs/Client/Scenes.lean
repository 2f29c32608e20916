import NetSession.Proofs.Client.Record
import NetSession.Proofs.Stream.WayOut

/-!
# How far a client is with an attempt

A `Scene` says how far a client is with the attempt at hand, and with it what its state is, which
task or attempt is under way, what waits in the mailbox, and what the client still has to do. A
machine is `Sound` in a scene if all this is so. As long as the client runs, its machine is sound in
some scene; `Situated` says so, and what is left once it has stopped.

Scenes follow each other in a circle. From `resting` a tick leads to `dialing`, and the outcome of
the attempt to `answered`. If it failed, the client goes on by `failing` and `failed`, else by
`opening`, `opened`, `hanging` and `closing`, and is `resting` again.
-/

namespace NetSession.Client

variable {σ : Type}

/-- How far a client is with the attempt at hand. -/
inductive Scene where
  /-- Nothing is under way. -/
  | resting
  /-- The outcome of the attempt is open. -/
  | dialing
  /-- The outcome waits to be taken in. -/
  | answered (event : Event)
  /-- No connection could be made, and the handler is told. -/
  | failing
  /-- The handler is told that the attempt closes. -/
  | failed
  /-- There is a connection, whose task is not started yet. -/
  | opening
  /-- There is a connection. -/
  | opened
  /-- The connection closes, but its task was not told to stop. -/
  | hanging
  /-- The connection closes, and its task was told to stop. -/
  | closing

/-- Whether an event is the outcome of an attempt. -/
def Event.IsOutcome (attempt : Nat) : Event → Prop
  | .connected attempt' | .connectFailed attempt' _ => attempt' = attempt
  | .read _ _ | .ended _ _ | .closed _ => False

/-- Whether an event is what the task of an attempt reports before it closes the socket. -/
def Event.IsNews (attempt : Nat) : Event → Prop
  | .read attempt' _ | .ended attempt' _ => attempt' = attempt
  | .connected _ | .connectFailed _ _ | .closed _ => False

namespace Scene

/-- The state of the client. -/
def state : Scene → State
  | resting => .disconnected
  | dialing | answered _ | failing => .connecting
  | opening | opened => .connected
  | failed | hanging | closing => .closing

/-- How far the cycle of callbacks is. -/
def spot : Scene → Spot
  | resting | dialing | answered _ => .apart
  | failing => .failing
  | opening | opened => .connected
  | failed | hanging | closing => .closing

/-- The attempt that payloads are sent on. -/
def outlet (attempt : Nat) : Scene → Option Nat
  | opening | opened => some attempt
  | _ => none

/-- The attempt whose task can be told to stop. -/
def stopper (attempt : Nat) : Scene → Option Nat
  | opening | opened | hanging | closing => some attempt
  | _ => none

/-- The attempts whose outcome is open. -/
def dials (attempt : Nat) : Scene → List Nat
  | dialing => [attempt]
  | _ => []

/-- What the client may still have to do. -/
def Jobs (attempt : Nat) (jobs : List Job) : Scene → Prop
  | resting | opened | closing => jobs = [] ∨ jobs = [.finish]
  | dialing | answered _ => jobs = []
  | failing => jobs = [.enter .closing .closing, .enter .disconnected .closed, .finish]
  | failed => jobs = [.enter .disconnected .closed, .finish]
  | opening => jobs = [.spawn attempt, .finish]
  | hanging => jobs = [.signal] ∨ jobs = [.signal, .finish]

/-- Whether a task, if there is one, has reported everything. -/
def Settled (phase : Option Stream.Phase) : Prop := ∀ p, phase = some p → p.isLast = true

/-- There is no task. -/
theorem settled_none : Settled none := fun _ hnone => nomatch hnone

/-- What waits in the mailbox, and how the link and the task of the attempt are. -/
def Task (attempt : Nat) (events : List Event) (link : Option (Bool × Bool))
    (phase : Option Stream.Phase) : Scene → Prop
  | resting | failing | failed => events = [] ∧ Settled phase
  | dialing => events = [] ∧ phase = none
  | answered event => events = [event] ∧ event.IsOutcome attempt ∧ phase = none
  | opening => events = [] ∧ phase = none ∧ link = some (false, true)
  | opened | hanging =>
    (∀ event ∈ events, event.IsNews attempt) ∧ link = some (false, true) ∧
      ∃ p, phase = some p ∧ p.isPast = false
  | closing =>
    -- What the task reports last is that the socket is closed.
    ∃ news p, (∀ event ∈ news, event.IsNews attempt) ∧ phase = some p ∧
      events = news ++ if p.isLast then [.closed attempt] else []

end Scene

namespace Machine

/-- The callback at hand. -/
def tag (m : Machine σ) : Option Callback := m.stage.map Prod.fst

/-- Whether the signal to stop and the queue of the task of an attempt are there. -/
def link (m : Machine σ) (attempt : Nat) : Option (Bool × Bool) :=
  m.client.links[attempt]?.map Link.outline

/-- How far the task of an attempt is. -/
def phase (m : Machine σ) (attempt : Nat) : Option Stream.Phase :=
  m.system.streams[attempt]?.map (·.phase)

/-- A machine is in a scene, whatever callback is at hand. -/
structure Placed (m : Machine σ) (scene : Scene) : Prop where
  /-- The client is in the state of the scene. -/
  state : m.client.state = scene.state
  /-- Payloads are sent on the attempt at hand, or not at all. -/
  outlet : m.client.outlet = scene.outlet m.client.attempt
  /-- The task of the attempt at hand can be told to stop, or none. -/
  stopper : m.client.stopper = scene.stopper m.client.attempt
  /-- Of no attempt but the one at hand the outcome is open. -/
  dials : m.system.dials = scene.dials m.client.attempt
  /-- The client has to do what comes next. -/
  jobs : scene.Jobs m.client.attempt m.jobs
  /-- The mailbox, the link and the task are as they should be. -/
  task : scene.Task m.client.attempt m.system.events (m.link m.client.attempt)
    (m.phase m.client.attempt)
  /-- The tasks of all earlier attempts have reported everything. -/
  older : ∀ attempt p, m.phase attempt = some p →
    attempt ≤ m.client.attempt ∧ (attempt < m.client.attempt → p.isLast = true)

/-- A machine is in a scene, and what was written down fits. -/
structure Sound (m : Machine σ) (scene : Scene) : Prop extends m.Placed scene where
  /-- The callback at hand is one of those that are called in this state. -/
  inside : ∀ callback, m.tag = some callback → callback.state = scene.state
  /-- What was written down fits how far the cycle of callbacks is. -/
  recorded : m.client.Recorded scene.spot

/-- The client has stopped. -/
structure Stopped (m : Machine σ) : Prop where
  /-- It does not run. -/
  running : m.system.running = false
  /-- It is disconnected. -/
  state : m.client.state = .disconnected
  /-- Payloads are not sent. -/
  outlet : m.client.outlet = none
  /-- It is in no callback. -/
  stage : m.stage = none
  /-- It has nothing to do. -/
  jobs : m.jobs = []
  /-- What was written down fits. -/
  recorded : ∃ spot, m.client.Recorded spot

/-- A machine whose client runs is sound in some scene; else its client has stopped. -/
inductive Situated (m : Machine σ) : Prop where
  /-- The client runs. -/
  | running (scene : Scene) (running : m.system.running = true) (sound : m.Sound scene)
  /-- The client has stopped. -/
  | stopped (stopped : m.Stopped)

variable {m m' : Machine σ} {scene scene' : Scene}

/-- A calm change leaves a machine where it is. A callback may return at it. -/
theorem Sound.calm (h : m.Sound scene) (hclient : Calm m.client m'.client)
    (hdials : m'.system.dials = m.system.dials) (hevents : m'.system.events = m.system.events)
    (hphase : ∀ attempt, m'.phase attempt = m.phase attempt) (hjobs : m'.jobs = m.jobs)
    (htag : ∀ callback, m'.tag = some callback → m.tag = some callback) : m'.Sound scene where
  state := hclient.state.trans h.state
  outlet := by
    rw [hclient.outlet, hclient.attempt]
    exact h.outlet
  stopper := by
    rw [hclient.stopper, hclient.attempt]
    exact h.stopper
  dials := by
    rw [hdials, hclient.attempt]
    exact h.dials
  jobs := by
    rw [hjobs, hclient.attempt]
    exact h.jobs
  task := by
    have hlink : m'.link m.client.attempt = m.link m.client.attempt := hclient.links _
    rw [hevents, hclient.attempt, hphase, hlink]
    exact h.task
  older attempt p := by
    rw [hphase, hclient.attempt]
    exact h.older attempt p
  inside callback htag' := h.inside callback (htag callback htag')
  recorded := h.recorded.calm hclient

/-- A machine in a scene calls a callback that may come next. The scene is that in which the
callback runs. -/
theorem Placed.call (h : m.Placed scene) {c : Client σ} {spot : Spot} {callback : Callback}
    (hrecorded : c.Recorded spot) (htrace : m.client.trace = c.trace)
    (hattempt : m.client.attempt = c.attempt)
    (hbeats : List.range c.heartbeats ++ callback.beat?.toList = List.range m.client.heartbeats)
    (hstate : callback.state = scene.state) (hnext : spot.next callback = some scene.spot) :
    (m.call callback).Sound scene where
  state := h.state
  outlet := h.outlet
  stopper := h.stopper
  dials := h.dials
  jobs := h.jobs
  task := h.task
  older := h.older
  inside callback' htag := by
    obtain rfl := Option.some.inj htag
    exact hstate
  recorded := by
    refine hrecorded.call ?_ hnext hbeats hattempt
    change m.client.trace ++ [.called callback m.client.state] = _
    rw [htrace, h.state, hstate]

end Machine

end NetSession.Client
