import NetSession.Client.System

/-!
# Clients in small steps

`System.step` lets the client run a callback to its end, and all callbacks of an attempt that failed
at once. Where the client, its attempts to connect, the tasks of its connections and the holders of
the client run beside each other, they take their steps in any order. A `Machine` is a system whose
client does one thing at a time: it takes something from a mailbox, does one thing that a reaction
asks for, goes over to another state with the callback that tells of it, starts one task, gives one
signal. What it still has to do stands in its `stage` and its `jobs`, and everybody else may take
steps in between.
-/

namespace NetSession.Client

variable {σ τ : Type}

/-- Something that a client has yet to do. -/
inductive Job where
  /-- To go over to a state, and to call the callback that tells of it. -/
  | enter (state : State) (callback : Callback)
  /-- To start the task of a connection that was made for an attempt. -/
  | spawn (attempt : Nat)
  /-- To tell the task of the connection to stop. -/
  | signal
  /-- To stop, if it is shutting down and has nothing more to close. -/
  | finish
  deriving DecidableEq

/-- A callback that was called, with what its reaction has yet to do. -/
abbrev Stage (σ : Type) := Callback × Reaction σ

/-- A system whose client is in the middle of something. -/
structure Machine (σ : Type) where
  /-- The system. -/
  system : System σ
  /-- The callback at hand. -/
  stage : Option (Stage σ) := none
  /-- What is to be done after that, before the client looks at its mailboxes again. -/
  jobs : List Job := []

/-- A step of a machine. -/
inductive Turn where
  /-- The client goes on with what it is at. -/
  | proceed
  /-- The client starts something, or something else happens. -/
  | move (move : Move)

/-- Whether the timer of the client ticks. -/
def Turn.isTick : Turn → Bool
  | .move .tick => true
  | _ => false

/-- Whether a move is the client's. -/
def Move.isClient : Move → Bool
  | .shutdown | .handle | .tick => true
  | _ => false

/-- Does the first thing that a reaction asks for; gives its value if there is no more, else the
rest. -/
def advance (c : Client σ) : Reaction τ → (τ ⊕ Reaction τ) × Client σ
  | .done value => (.inl value, c)
  | .look next => (.inr (next c.state), c)
  | .send data next =>
    let (ok, c) := c.send data
    (.inr (next ok), c)
  | .shutdown next => (.inr next, c.askShutdown)
  | .say notice next => (.inr next, c.note (.said notice))

/-- Says why nothing more can be read. -/
def sayEnded (c : Client σ) (failure : Option String) : Client σ :=
  match failure with
  | some cause => c.say .warn ("read error: " ++ cause)
  | none => c.say .info "server closed the connection"

/-- Takes over the connection that was made for an attempt. -/
def adopt (c : Client σ) (attempt : Nat) : Client σ :=
  let c := c.say .info ("connected to " ++ c.target.text)
  { c with
    links := c.links.insert attempt {}
    outlet := some attempt
    stopper := some attempt
    state := .connected }

/-- Takes a request to shut down. -/
def takeShutdown (c : Client σ) : Client σ :=
  { c with stopping := true, requests := c.requests - 1 }

/-- Counts a tick. -/
def beat (c : Client σ) : Client σ :=
  { c with heartbeats := c.heartbeats + 1 : Client σ }.say .debug
    ("on heartbeat (index " ++ toString c.heartbeats ++ ")")

/-- Tells the task of the connection to stop. -/
def signalStop (c : Client σ) : Client σ :=
  match c.stopper with
  | none => c
  | some attempt => { c with links := c.links.alter attempt (·.map Link.signal) }

namespace Machine

/-- A machine with a client that was just started. -/
def start (config : ClientConfig) (target : Endpoint) (handler : Handler σ) (memory : σ)
    (now : Instant) : Machine σ :=
  { system := .start config target handler memory now }

/-- The part that owns the connection. -/
abbrev client (m : Machine σ) : Client σ := m.system.client

/-- The machine with another part that owns the connection. -/
def setClient (m : Machine σ) (c : Client σ) : Machine σ :=
  { m with system := { m.system with client := c } }

/-- Whether the client is at nothing. -/
def isIdle (m : Machine σ) : Bool := m.stage.isNone && m.jobs.isEmpty

/-- Calls a callback. -/
def call (m : Machine σ) (callback : Callback) : Machine σ :=
  { m.setClient (m.client.note (.called callback m.client.state)) with
    stage := some (callback, m.client.handler callback m.client.memory) }

/-- Begins to close the connection, if there is one. The task is told to stop only when the callback
has returned. -/
def close (m : Machine σ) (jobs : List Job) : Machine σ :=
  if m.client.state = .connected then
    { m.setClient { m.client with state := .closing, outlet := none } with
      jobs := .signal :: jobs }.call .closing
  else { m with jobs := jobs }

/-- Does a job, which is no longer among those to be done. -/
def perform (m : Machine σ) : Job → Machine σ
  | .enter state callback => (m.setClient (m.client.become state)).call callback
  | .spawn attempt =>
    { m with system := { m.system with streams := m.system.streams.insert attempt {} } }
  | .signal => m.setClient m.client.signalStop
  | .finish => { m with system := m.system.stopIfDone }

/-- The client goes on with what it is at. -/
def proceed (m : Machine σ) : Option (Machine σ) :=
  match m.stage, m.jobs with
  | some (callback, rest), _ =>
    match m.client.advance rest with
    | (.inl memory, c) => some { m.setClient { c with memory := memory } with stage := none }
    | (.inr rest, c) => some { m.setClient c with stage := some (callback, rest) }
  | none, job :: rest => some ({ m with jobs := rest }.perform job)
  | none, [] => none

/-- Starts to take in what came of an attempt. -/
def handle (m : Machine σ) (event : Event) : Machine σ :=
  let done : Machine σ := { m with jobs := [.finish] }
  if event.attempt = m.client.attempt then
    match event with
    | .connected attempt =>
      if m.client.stopping then done.setClient (m.client.become .disconnected)
      else
        { done.setClient (m.client.adopt attempt) with
          jobs := [.spawn attempt, .finish] }.call .connected
    | .connectFailed _ cause =>
      let c := m.client.say .warn ("connect to " ++ m.client.target.text ++ " failed: " ++ cause)
      { m.setClient c with
        jobs := [.enter .closing .closing, .enter .disconnected .closed, .finish] }.call
          (.connectFailed cause)
    | .read _ data => if m.client.state = .connected then done.call (.received data) else done
    | .ended _ failure => (m.setClient (m.client.sayEnded failure)).close [.finish]
    | .closed _ =>
      (done.setClient { m.client with stopper := none, state := .disconnected }).call .closed
  else
    done.setClient
      (m.client.say .debug ("ignoring what came of attempt " ++ toString event.attempt))

/-- Starts to serve a request to shut down. -/
def shutdown (m : Machine σ) : Machine σ :=
  let c := m.client.takeShutdown
  match c.state with
  | .connected => (m.setClient c).close []
  | .closing => m.setClient c
  | .disconnected | .connecting => { m with system := (m.setClient c).system.stop }

/-- Starts what a tick is there for. -/
def tick (m : Machine σ) : Machine σ :=
  match m.client.state with
  | .connected => (m.setClient m.client.beat).call (.heartbeat m.client.heartbeats)
  | .disconnected | .connecting | .closing => { m with system := m.system.update m.client.tick }

/-- The client starts a move of its own. -/
def begin (m : Machine σ) : Move → Option (Machine σ)
  | .shutdown =>
    if m.system.running ∧ !m.client.stopping ∧ 0 < m.client.requests then some m.shutdown else none
  | .handle =>
    match m.system.running, m.system.events with
    | true, event :: rest =>
      some ({ m with system := { m.system with events := rest } }.handle event)
    | _, _ => none
  | .tick =>
    match m.system.running, m.system.timer with
    | true, some timer =>
      if timer.isDue m.system.now then
        some { m with system := { m.system with timer := some (timer.tick m.system.now) } }.tick
      else none
    | _, _ => none
  -- What is not the client's happens at once, whatever the client is at.
  | move => (m.system.step move).map fun system => { m with system := system }

/-- One step of a run, if it can be taken. The client starts nothing before it is done with what it
is at. -/
def step (m : Machine σ) : Turn → Option (Machine σ)
  | .proceed => m.proceed
  | .move move => if move.isClient && !m.isIdle then none else m.begin move

/-- A run: steps that can be taken one after the other. -/
def run (m : Machine σ) : List Turn → Option (Machine σ)
  | [] => some m
  | turn :: rest => (m.step turn).bind (·.run rest)

end Machine

end NetSession.Client
