import NetSession.Client.Basic
import NetSession.Stream.Basic

/-!
# Clients with their streams

A whole client: the part that owns the connection, the attempts to connect whose outcome is open,
the tasks of connections that were made, and the mailbox of what comes of attempts. A `Move` is one
step of one of them, or something that comes from outside; `System.step` takes it if it can be
taken. Any sequence of moves is a run.
-/

namespace NetSession.Client

/-- A whole client. -/
structure System (σ : Type) where
  /-- The part that owns the connection. -/
  client : Client σ
  /-- The moment at hand. -/
  now : Instant := .zero
  /-- The attempts whose outcome is open. -/
  dials : List Nat := []
  /-- The tasks with their sockets, by attempt. -/
  streams : Std.TreeMap Nat Stream := ∅
  /-- What came of attempts and waits to be taken in. -/
  events : List Event := []
  /-- Whether the client runs. -/
  running : Bool := true
  /-- The timer. -/
  timer : Option Timer := none

/-- A step of a run. -/
inductive Move where
  /-- The client takes a request to shut down. -/
  | shutdown
  /-- The client takes in the next event. -/
  | handle
  /-- The timer ticks. -/
  | tick
  /-- A connection was made for an attempt. -/
  | connect (attempt : Nat)
  /-- No connection could be made for an attempt. -/
  | refuse (attempt : Nat) (cause : String)
  /-- The task of an attempt takes a step. -/
  | stream (attempt : Nat) (move : Stream.Move)
  /-- Bytes arrive at the socket of an attempt. -/
  | receive (attempt : Nat) (data : Bytes)
  /-- The server at the other end of an attempt is at its end. -/
  | finish (attempt : Nat)
  /-- The socket of an attempt fails. -/
  | fail (attempt : Nat) (cause : String)
  /-- Someone who holds the client does something with it. -/
  | act (reaction : Reaction Unit)
  /-- Time passes. -/
  | pass (d : Duration)

namespace System

variable {σ : Type}

/-- The system with its client after a step; an attempt that the step began is open. -/
def update (y : System σ) (client : Client σ) : System σ :=
  { y with
    client := client
    dials := if y.client.attempt < client.attempt then y.dials ++ [client.attempt] else y.dials }

/-- A client that was just started: it begins its first attempt at once. -/
def start (config : ClientConfig) (target : Endpoint) (handler : Handler σ) (memory : σ)
    (now : Instant) : System σ :=
  let client : Client σ := { config, target, handler, memory }
  let y : System σ := { client, now, timer := Timer.heartbeat? now config.heartbeatInterval }
  y.update client.startConnect

/-- The client stops: it gives up its mailbox and its timer. -/
def stop (y : System σ) : System σ :=
  { y with
    client := (y.client.become .disconnected).say .info "stopped"
    events := [], running := false, timer := none }

/-- Stops a client that is shutting down and has nothing more to close. -/
def stopIfDone (y : System σ) : System σ :=
  if y.client.stopping ∧ y.client.state = .disconnected then y.stop else y

/-- Takes in an event. The connection that it brings is given a task, if it is taken over. -/
def handle (y : System σ) (event : Event) : System σ :=
  let streams := match event with
    | .connected attempt =>
      if y.client.adopts attempt then y.streams.insert attempt {} else y.streams
    | _ => y.streams
  ({ y with streams := streams : System σ }.update (y.client.handle event)).stopIfDone

/-- Takes a request to shut down. -/
def shutdown (y : System σ) : System σ :=
  let client := { y.client with stopping := true, requests := y.client.requests - 1 }
  match client.state with
  | .connected => y.update client.close
  | .closing => { y with client := client }
  | .disconnected | .connecting => { y with client := client : System σ }.stop

/-- The event that a report of a task is. -/
def eventOf (attempt : Nat) : Stream.Report → Event
  | .read data => .read attempt data
  | .ended failure => .ended attempt failure
  | .closed => .closed attempt

/-- What became of a stream at a step: bytes that were written, and the socket that was closed. -/
def noteStep (c : Client σ) (attempt : Nat) (before after : Stream) : Client σ :=
  let c := if after.written.length = before.written.length then c
    else c.note (.wrote attempt (after.written.drop before.written.length))
  if after.shut && !before.shut then c.note (.shut attempt) else c

/-- Puts an event into the mailbox, if there still is one. -/
def post (y : System σ) (event : Event) : System σ :=
  if y.running then
    { y with client := y.client.note (.reported event), events := y.events ++ [event] }
  else y

/-- Lets the task of an attempt take a step. -/
def stepStream (y : System σ) (attempt : Nat) (move : Stream.Move) : Option (System σ) := do
  let before ← y.streams[attempt]?
  let link ← y.client.links[attempt]?
  let (after, link, report) ← before.step link y.running move
  let client := noteStep y.client attempt before after
  let y := { y with
    client := { client with links := client.links.insert attempt link }
    streams := y.streams.insert attempt after }
  match report with
  | none => return y
  | some report => return y.post (eventOf attempt report)

/-- Ends an attempt whose outcome is open. -/
def settleDial (y : System σ) (attempt : Nat) (event : Event) : Option (System σ) :=
  if attempt ∈ y.dials then some ({ y with dials := y.dials.erase attempt : System σ }.post event)
  else none

/-- Changes the stream of an attempt. -/
def onStream (y : System σ) (attempt : Nat) (f : Stream → Stream) : Option (System σ) :=
  y.streams[attempt]?.map fun stream => { y with streams := y.streams.insert attempt (f stream) }

/-- One step of a run, if it can be taken. -/
def step (y : System σ) : Move → Option (System σ)
  | .shutdown =>
    if y.running ∧ !y.client.stopping ∧ 0 < y.client.requests then some y.shutdown else none
  | .handle =>
    match y.running, y.events with
    | true, event :: rest => some ({ y with events := rest : System σ }.handle event)
    | _, _ => none
  | .tick =>
    match y.running, y.timer with
    | true, some timer =>
      if timer.isDue y.now then
        some ({ y with timer := some (timer.tick y.now) : System σ }.update y.client.tick)
      else none
    | _, _ => none
  | .connect attempt => y.settleDial attempt (.connected attempt)
  | .refuse attempt cause => y.settleDial attempt (.connectFailed attempt cause)
  | .stream attempt move => y.stepStream attempt move
  | .receive attempt data => y.onStream attempt (·.arrive data)
  | .finish attempt => y.onStream attempt Stream.finish
  | .fail attempt cause => y.onStream attempt (·.fail cause)
  | .act reaction => some { y with client := (y.client.perform reaction).2 }
  | .pass d => some { y with now := y.now.after d }

/-- A run: moves that can be taken one after the other. -/
def run (y : System σ) : List Move → Option (System σ)
  | [] => some y
  | move :: rest => (y.step move).bind (·.run rest)

/-- The system with nothing written down. -/
def forget (y : System σ) : System σ := { y with client := { y.client with trace := [] } }

/-- The streams that have something to do. -/
def busyStreams (y : System σ) : List (Nat × Stream) :=
  y.streams.toList.filter fun (attempt, stream) =>
    match y.client.links[attempt]? with
    | some link => !stream.isIdle link y.running
    | none => false

/-- What can happen next without anything from outside: first what the client itself has to do,
then what the tasks have to do. -/
def nextMoves (y : System σ) : List Move :=
  [.shutdown, .handle, .tick]
    ++ y.busyStreams.map fun (attempt, stream) => .stream attempt stream.nextMove

/-- Lets happen what can happen without anything from outside, at most `fuel` steps. -/
def settle (y : System σ) : Nat → System σ
  | 0 => y
  | fuel + 1 =>
    match y.nextMoves.findSome? y.step with
    | some y => y.settle fuel
    | none => y

end System

end NetSession.Client
