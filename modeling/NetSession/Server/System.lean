import NetSession.Server.Basic
import NetSession.Stream.Basic

/-!
# Servers with their streams

A whole server: the part that owns the table, a task for each connection, and the mailboxes between
them. Reports of the tasks, requests to be closed and commands each wait in a mailbox of their own,
first come first served. A `Move` is one step of one of them, or something that comes from outside;
`System.step` takes it if it can be taken. Any sequence of moves is a run.

When the server stops, its table and its mailboxes are gone, but the tasks go on: a connection stays
open until its task finds that nobody hears its reports any more.
-/

namespace NetSession.Server

/-- What the holder of a server can ask of it. -/
inductive Command where
  /-- Visit every live connection, and count them. -/
  | iterate (visit : Option (ConnId → Reaction Unit))
  /-- Begin to close every live connection, and count those that had not begun before. -/
  | disconnectAll
  /-- Stop. -/
  | shutdown

/-- What the listener has for the server. -/
inductive Arrival where
  /-- A peer has connected. -/
  | peer (address : Endpoint)
  /-- A connection cannot be accepted. -/
  | failure (cause : String)
  deriving DecidableEq

/-- A whole server. -/
structure System (σ : Type) where
  /-- The part that owns the table. -/
  server : Server σ
  /-- The tasks with their sockets, by the number of the connection. -/
  streams : Std.TreeMap ConnId Stream := ∅
  /-- The reports of the tasks that wait to be taken in. -/
  events : List Event := []
  /-- The commands that wait to be served. -/
  commands : List Command := []
  /-- What waits at the listener. -/
  arrivals : List Arrival := []
  /-- The counts that commands were answered with. -/
  replies : List Nat := []
  /-- Whether the server runs. -/
  running : Bool := true
  /-- Until when nothing is accepted, if an accept has failed. -/
  pausedUntil : Option Instant := none
  /-- The timer of the heartbeat. -/
  timer : Option Timer := none

/-- A step of a run. -/
inductive Move where
  /-- The server serves the next command. -/
  | serve
  /-- The server accepts what waits at the listener. -/
  | accept
  /-- The pause after a failed accept is over. -/
  | resume
  /-- The server takes in the next report. -/
  | handle
  /-- The server serves the next request to close a connection. -/
  | close
  /-- The heartbeat ticks. -/
  | tick
  /-- The task of a connection takes a step. -/
  | stream (id : ConnId) (move : Stream.Move)
  /-- Something comes to the listener. -/
  | arrive (arrival : Arrival)
  /-- Bytes arrive at the socket of a connection. -/
  | receive (id : ConnId) (data : Bytes)
  /-- The peer of a connection is at its end. -/
  | finish (id : ConnId)
  /-- The socket of a connection fails. -/
  | fail (id : ConnId) (cause : String)
  /-- A command is given. -/
  | command (command : Command)
  /-- Someone who holds references does something with them. -/
  | act (reaction : Reaction Unit)
  /-- Time passes. -/
  | pass (d : Duration)

namespace System

variable {σ : Type}

/-- A server that was just started, with its timer set. -/
def start (config : ServerConfig) (handler : Handler σ) (memory : σ) (now : Instant) : System σ :=
  { server := { config, handler, memory, now }
    timer := Timer.heartbeat? now config.heartbeatInterval }

/-- The server stops: it gives up its table and its mailboxes. -/
def stop (y : System σ) : System σ :=
  let s := y.server
  let s := s.say .info ("shut down, " ++ toString s.roster.table.size
    ++ " connection(s) left open")
  { y with
    server := { s with roster := { pool := s.pool.abandon, table := .empty } }
    events := [], commands := [], arrivals := [], running := false, timer := none }

/-- Serves a command. -/
def serve (y : System σ) : Command → System σ
  | .iterate visit =>
    let (count, s) := y.server.iterate visit
    { y with server := s, replies := y.replies ++ [count] }
  | .disconnectAll =>
    let (count, s) := y.server.disconnectAll
    { y with server := s, replies := y.replies ++ [count] }
  | .shutdown => y.stop

/-- Accepts what was at the listener. -/
def accept (y : System σ) : Arrival → System σ
  | .peer address =>
    { y with
      server := y.server.accept address
      streams := y.streams.insert y.server.nextId {} }
  | .failure cause =>
    let (resume, s) := y.server.acceptFailed cause
    { y with server := s, pausedUntil := some resume }

/-- The event that a report of a task is. -/
def eventOf (id : ConnId) : Stream.Report → Event
  | .read data => .read id data
  | .ended failure => .ended id failure
  | .closed => .closed id

/-- What became of a stream at a step: bytes that were written, and the socket that was closed. -/
def noteStep (s : Server σ) (id : ConnId) (before after : Stream) : Server σ :=
  let s := if after.written.length = before.written.length then s
    else s.note (.wrote id (after.written.drop before.written.length))
  if after.shut && !before.shut then s.note (.shut id) else s

/-- Lets the task of a connection take a step. -/
def stepStream (y : System σ) (id : ConnId) (move : Stream.Move) : Option (System σ) := do
  let before ← y.streams[id]?
  let c ← y.server.pool.get? id
  let (after, link, report) ← before.step c.link y.running move
  let s := noteStep y.server id before after
  let s := s.setPool (s.pool.set id { c with link := link })
  -- A task that has ended gives its reference back.
  let s := if after.phase = .ended then { s with tasks := s.tasks.erase id } else s
  let y := { y with streams := y.streams.insert id after }
  match report with
  | none => return { y with server := s }
  | some report =>
    let event := eventOf id report
    return { y with server := s.note (.reported event), events := y.events ++ [event] }

/-- Changes the stream of a connection. -/
def onStream (y : System σ) (id : ConnId) (f : Stream → Stream) : Option (System σ) :=
  y.streams[id]?.map fun stream => { y with streams := y.streams.insert id (f stream) }

/-- One step of a run, if it can be taken. -/
def step (y : System σ) : Move → Option (System σ)
  | .serve =>
    match y.running, y.commands with
    | true, command :: rest => some ({ y with commands := rest : System σ }.serve command)
    | _, _ => none
  | .accept =>
    match y.running, y.pausedUntil, y.arrivals with
    | true, none, arrival :: rest => some ({ y with arrivals := rest : System σ }.accept arrival)
    | _, _, _ => none
  | .resume =>
    match y.running, y.pausedUntil with
    | true, some t =>
      if t.nanos ≤ y.server.now.nanos then some { y with pausedUntil := none } else none
    | _, _ => none
  | .handle =>
    match y.running, y.events with
    | true, event :: rest => some { y with events := rest, server := y.server.handle event }
    | _, _ => none
  | .close =>
    match y.running, y.server.pool.requests with
    | true, id :: rest =>
      let s := y.server.setPool { y.server.pool with requests := rest }
      some { y with server := s.disconnectLive id }
    | _, _ => none
  | .tick =>
    match y.running, y.timer with
    | true, some timer =>
      if timer.isDue y.server.now then
        some { y with timer := some (timer.tick y.server.now), server := y.server.heartbeat }
      else none
    | _, _ => none
  | .stream id move => y.stepStream id move
  | .arrive arrival =>
    if y.running then some { y with arrivals := y.arrivals ++ [arrival] } else none
  | .receive id data => y.onStream id (·.arrive data)
  | .finish id => y.onStream id Stream.finish
  | .fail id cause => y.onStream id (·.fail cause)
  | .command command =>
    if y.running then some { y with commands := y.commands ++ [command] } else none
  | .act reaction => some { y with server := (y.server.perform reaction).2 }
  | .pass d => some { y with server := { y.server with now := y.server.now.after d } }

/-- A run: moves that can be taken one after the other. -/
def run (y : System σ) : List Move → Option (System σ)
  | [] => some y
  | move :: rest => (y.step move).bind (·.run rest)

/-- The system with nothing written down. -/
def forget (y : System σ) : System σ := { y with server := { y.server with trace := [] } }

/-- The streams that have something to do. -/
def busyStreams (y : System σ) : List (ConnId × Stream) :=
  y.streams.toList.filter fun (id, stream) =>
    match y.server.pool.get? id with
    | some c => !stream.isIdle c.link y.running
    | none => false

/-- What can happen next without anything from outside: first what the server itself has to do,
then what the tasks have to do, in the order of their connections. -/
def nextMoves (y : System σ) : List Move :=
  [.serve, .accept, .resume, .handle, .close, .tick]
    ++ y.busyStreams.map fun (id, stream) => .stream id stream.nextMove

/-- Lets happen what can happen without anything from outside, at most `fuel` steps. -/
def settle (y : System σ) : Nat → System σ
  | 0 => y
  | fuel + 1 =>
    match y.nextMoves.findSome? y.step with
    | some y => y.settle fuel
    | none => y

end System

end NetSession.Server
