import NetSession.Client.Reaction
import NetSession.Clock
import NetSession.Closed
import NetSession.Endpoint.Basic
import NetSession.Settings.Basic
import NetSession.Stream.Link
import Std.Data.TreeMap

/-!
# Clients

The part of a client that owns its connection. It has one timer with two jobs: while there is a
connection each tick is a heartbeat, and while there is none each tick tries to make one. Attempts
to connect are numbered, and so is everything that comes of them; what comes of an attempt that is
not the current one is passed over.

Each step runs the handler's callbacks to their end, and writes down what happened in the `trace`.
-/

namespace NetSession

namespace Client

/-- What comes of an attempt to connect. -/
inductive Event where
  /-- The connection was made. -/
  | connected (attempt : Nat)
  /-- No connection could be made. -/
  | connectFailed (attempt : Nat) (cause : String)
  /-- Bytes were read. -/
  | read (attempt : Nat) (data : Bytes)
  /-- Nothing more can be read or written: the server is at its end, or there was a failure. -/
  | ended (attempt : Nat) (failure : Option String)
  /-- The socket is closed. -/
  | closed (attempt : Nat)
  deriving DecidableEq, Repr

/-- The attempt that an event comes of. -/
def Event.attempt : Event → Nat
  | .connected attempt | .connectFailed attempt _ | .read attempt _ | .ended attempt _
  | .closed attempt => attempt

/-- Something that happened. -/
inductive Happening where
  /-- An attempt to connect was begun. -/
  | dialed (attempt : Nat)
  /-- A callback ran, while the client was in a state. -/
  | called (callback : Callback) (state : State)
  /-- Someone sent, which worked or not. -/
  | sent (data : Bytes) (ok : Bool)
  /-- Someone asked the client to shut down. -/
  | asked
  /-- Something was said. -/
  | said (notice : Console.Notice)
  /-- The task of an attempt wrote bytes. -/
  | wrote (attempt : Nat) (data : Bytes)
  /-- The task of an attempt closed its socket. -/
  | shut (attempt : Nat)
  /-- Something was reported. -/
  | reported (event : Event)
  deriving DecidableEq, Repr

end Client

/-- A client with a handler whose memory is of type `σ`. -/
structure Client (σ : Type) where
  /-- How it runs. -/
  config : ClientConfig
  /-- The server. -/
  target : Endpoint
  /-- What it calls. -/
  handler : Client.Handler σ
  /-- What the handler remembers. -/
  memory : σ
  /-- How it stands to the server. -/
  state : Client.State := .disconnected
  /-- The number of attempts to connect so far, which is that of the current one. -/
  attempt : Nat := 0
  /-- What is shared with the tasks of the attempts that were made a connection of. -/
  links : Std.TreeMap Nat Link := ∅
  /-- The attempt that payloads are sent on, if they can be sent. -/
  outlet : Option Nat := none
  /-- The attempt whose task can be told to stop. -/
  stopper : Option Nat := none
  /-- How often the heartbeat ticked. -/
  heartbeats : Nat := 0
  /-- Whether it is shutting down. -/
  stopping : Bool := false
  /-- How many requests to shut down wait. -/
  requests : Nat := 0
  /-- What happened so far, in order. -/
  trace : List Client.Happening := []

namespace Client

variable {σ τ : Type}

/-- Writes down that something happened. -/
def note (c : Client σ) (h : Happening) : Client σ := { c with trace := c.trace ++ [h] }

/-- Says something in the client's name. -/
def say (c : Client σ) (severity : Console.Severity) (message : String) : Client σ :=
  c.note (.said (.say .client severity ("[uvx-client] " ++ c.config.name ++ " " ++ message)))

/-- The client in another state. -/
def become (c : Client σ) (state : State) : Client σ := { c with state := state }

/-- Whether there is a connection. -/
def isConnected (c : Client σ) : Bool := c.state == .connected

/-- The link that payloads are sent on, with its attempt. -/
def outgoing? (c : Client σ) : Option (Nat × Link) := do
  let attempt ← c.outlet
  return (attempt, ← c.links[attempt]?)

/-- Queues a payload for the server. -/
def enqueue (c : Client σ) (data : Bytes) : Except Closed (Client σ) :=
  match c.outgoing? with
  | none => .error .client
  | some (attempt, link) =>
    match link.push? data with
    | none => .error .client
    | some link => .ok { c with links := c.links.insert attempt link }

/-- Sends to the server; says whether that worked. -/
def send (c : Client σ) (data : Bytes) : Bool × Client σ :=
  match c.enqueue data with
  | .ok c => (true, c.note (.sent data true))
  | .error _ => (false, c.note (.sent data false))

/-- Asks the client to shut down. -/
def askShutdown (c : Client σ) : Client σ := { c with requests := c.requests + 1 }.note .asked

/-- Does what a reaction says, and gives its value. -/
def perform (c : Client σ) : Reaction τ → τ × Client σ
  | .done value => (value, c)
  | .look next => c.perform (next c.state)
  | .send data next =>
    let (ok, c) := c.send data
    c.perform (next ok)
  | .shutdown next => c.askShutdown.perform next
  | .say notice next => (c.note (.said notice)).perform next

/-- Runs a callback. -/
def call (c : Client σ) (callback : Callback) : Client σ :=
  let c := c.note (.called callback c.state)
  let (memory, c) := c.perform (c.handler callback c.memory)
  { c with memory := memory }

/-- Begins an attempt to connect. -/
def startConnect (c : Client σ) : Client σ :=
  let attempt := c.attempt + 1
  let c := { c with attempt := attempt, state := .connecting }
  (c.say .info ("connecting to " ++ c.target.text ++ " ...")).note (.dialed attempt)

/-- Begins to close the connection, if there is one. From now on nothing can be sent. -/
def close (c : Client σ) : Client σ :=
  if c.state = .connected then
    let c := { c with state := .closing, outlet := none }.call .closing
    match c.stopper with
    | none => c
    | some attempt => { c with links := c.links.alter attempt (·.map Link.signal) }
  else c

/-- Ticks. -/
def tick (c : Client σ) : Client σ :=
  match c.state with
  | .connected =>
    let index := c.heartbeats
    let c := { c with heartbeats := index + 1 }
    (c.say .debug ("on heartbeat (index " ++ toString index ++ ")")).call (.heartbeat index)
  | .disconnected => if c.config.autoConnect && !c.stopping then c.startConnect else c
  | .connecting | .closing => c

/-- Whether a connection that was made for an attempt is taken over. -/
def adopts (c : Client σ) (attempt : Nat) : Bool := attempt == c.attempt && !c.stopping

/-- Takes in what came of the current attempt. -/
def handleCurrent (c : Client σ) : Event → Client σ
  | .connected attempt =>
    if c.stopping then c.become .disconnected
    else
      let c := c.say .info ("connected to " ++ c.target.text)
      let c := { c with
        links := c.links.insert attempt {}
        outlet := some attempt
        stopper := some attempt
        state := .connected }
      c.call .connected
  | .connectFailed _ cause =>
    let c := c.say .warn ("connect to " ++ c.target.text ++ " failed: " ++ cause)
    let c := c.call (.connectFailed cause)
    let c := (c.become .closing).call .closing
    (c.become .disconnected).call .closed
  | .read _ data => if c.state = .connected then c.call (.received data) else c
  | .ended _ failure =>
    let c := match failure with
      | some cause => c.say .warn ("read error: " ++ cause)
      | none => c.say .info "server closed the connection"
    c.close
  | .closed _ => { c with stopper := none, state := .disconnected }.call .closed

/-- Takes in what came of an attempt. -/
def handle (c : Client σ) (event : Event) : Client σ :=
  if event.attempt = c.attempt then c.handleCurrent event
  else c.say .debug ("ignoring what came of attempt " ++ toString event.attempt)

end Client

end NetSession
