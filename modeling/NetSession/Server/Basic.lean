import NetSession.Connection.Roster
import NetSession.Server.Reaction
import NetSession.Settings.Basic

/-!
# Servers

The part of a server that owns the table of connections. It does one thing at a time: it accepts a
connection, takes in what the task of a connection reports (`Event`), serves a request to close one,
closes all, visits all, or ticks. Each step runs the handler's callbacks to their end, and writes
down what happened in the `trace`.

A connection closes in a fixed order, whatever began it: it is marked as closing, which makes every
later send on it fail; the closing callback runs; its task is told to stop, and closes the socket;
once the task reports that, the closed callback runs, and the connection leaves the table.
-/

namespace NetSession

namespace Server

/-- What the task of a connection reports. -/
inductive Event where
  /-- Bytes were read. -/
  | read (id : ConnId) (data : Bytes)
  /-- Nothing more can be read or written: the peer is at its end, or there was a failure. -/
  | ended (id : ConnId) (failure : Option String)
  /-- The socket is closed. -/
  | closed (id : ConnId)
  deriving DecidableEq, Repr

/-- Something that happened. -/
inductive Happening where
  /-- A callback was called. -/
  | called (callback : Callback)
  /-- A callback has returned. -/
  | returned (callback : Callback)
  /-- Someone sent on a connection, which worked or not. -/
  | sent (id : ConnId) (data : Bytes) (ok : Bool)
  /-- Someone asked for a connection to be closed, which worked or not. -/
  | asked (id : ConnId) (ok : Bool)
  /-- Something was said. -/
  | said (notice : Console.Notice)
  /-- The task of a connection wrote bytes. -/
  | wrote (id : ConnId) (data : Bytes)
  /-- The task of a connection closed its socket. -/
  | shut (id : ConnId)
  /-- The task of a connection reported something. -/
  | reported (event : Event)
  deriving DecidableEq, Repr

end Server

/-- A server with a handler whose memory is of type `σ`. -/
structure Server (σ : Type) where
  /-- How it runs. -/
  config : ServerConfig
  /-- What it calls. -/
  handler : Server.Handler σ
  /-- What the handler remembers. -/
  memory : σ
  /-- The moment at hand. -/
  now : Instant := .zero
  /-- The connections, with the table of live ones. A reference to one is its number. -/
  roster : Roster := {}
  /-- The references that the tasks of connections hold, one each. -/
  tasks : List ConnId := []
  /-- The references that the handler or others keep. -/
  held : List ConnId := []
  /-- The number of the next connection. -/
  nextId : ConnId := 1
  /-- How often the heartbeat ticked. -/
  heartbeats : Nat := 0
  /-- What happened so far, in order. -/
  trace : List Server.Happening := []

namespace Server

/-- How long nothing is accepted after an accept failed. -/
def acceptPause : Duration := .ofMillis 50

variable {σ τ : Type}

/-- Writes down that something happened. -/
def note (s : Server σ) (h : Happening) : Server σ := { s with trace := s.trace ++ [h] }

/-- Says something in the server's name. -/
def say (s : Server σ) (severity : Console.Severity) (message : String) : Server σ :=
  s.note (.said (.say .server severity ("[uvx-server] " ++ s.config.name ++ " " ++ message)))

/-- The pool of connections. -/
def pool (s : Server σ) : Pool := s.roster.pool

/-- The server with another pool. -/
def setPool (s : Server σ) (pool : Pool) : Server σ := { s with roster := { s.roster with pool } }

/-- The number of references to a connection. -/
def refCount (s : Server σ) (id : ConnId) : Nat :=
  s.roster.table.refCount id + s.tasks.count id + s.held.count id

/-- Sends on a connection. -/
def send (s : Server σ) (id : ConnId) (data : Bytes) : Bool × Server σ :=
  let (result, pool) := s.pool.send id data
  (result.isOk, (s.setPool pool).note (.sent id data result.isOk))

/-- Asks for a connection to be closed. -/
def askClose (s : Server σ) (id : ConnId) : Bool × Server σ :=
  let (result, pool) := s.pool.askClose id
  (result.isOk, (s.setPool pool).note (.asked id result.isOk))

/-- Does what a reaction says, and gives its value. -/
def perform (s : Server σ) : Reaction τ → τ × Server σ
  | .done value => (value, s)
  | .look id next => s.perform (next (s.pool.get? id))
  | .send id data next =>
    let (ok, s) := s.send id data
    s.perform (next ok)
  | .close id next =>
    let (ok, s) := s.askClose id
    s.perform (next ok)
  | .writeExtra id data next => (s.setPool (s.pool.modify id (·.writeExtra data))).perform next
  | .keep id next => { s with held := id :: s.held : Server σ }.perform next
  | .release id next => { s with held := s.held.erase id : Server σ }.perform next
  | .say notice next => (s.note (.said notice)).perform next

/-- Runs a callback. -/
def call (s : Server σ) (callback : Callback) : Server σ :=
  let s := s.note (.called callback)
  let (memory, s) := s.perform (s.handler callback s.memory)
  { s with memory := memory : Server σ }.note (.returned callback)

/-- Puts a new connection into the table. It has a task from now on. -/
def enter (s : Server σ) (peer : Endpoint) : Server σ :=
  let id := s.nextId
  let s := s.say .info ("on connection " ++ toString id ++ " from " ++ peer.text)
  let c := Connection.new id peer s.config.connExtraSize s.now
  let roster : Roster := { s.roster with pool := s.roster.pool.set id c }
  { s with
    nextId := id + 1
    roster := roster.insert id s.now
    tasks := id :: s.tasks }

/-- Accepts a connection from a peer. -/
def accept (s : Server σ) (peer : Endpoint) : Server σ :=
  (s.enter peer).call (.accepted s.nextId)

/-- Says that no connection could be accepted. -/
def sayRefused (s : Server σ) (cause : String) : Server σ :=
  s.say .error ("accept error: " ++ cause)

/-- Takes note that no connection could be accepted; gives the moment from which on it is tried
again. -/
def acceptFailed (s : Server σ) (cause : String) : Instant × Server σ :=
  let s := (s.sayRefused cause).call (.acceptFailed cause)
  (s.now.after acceptPause, s)

/-- Gives the task of a connection the signal to stop. -/
def signalStop (s : Server σ) (id : ConnId) : Server σ :=
  s.setPool (s.pool.modify id Connection.signalStop)

/-- Begins to close a connection; says whether it had not begun before. -/
def disconnect (s : Server σ) (id : ConnId) : Bool × Server σ :=
  let (first, pool) := s.pool.beginClose id
  -- The task is told to stop only when the callback has returned.
  if first then (true, ((s.setPool pool).call (.closing id)).signalStop id)
  else (false, s)

/-- Begins to close the connection of a number, if it is live. -/
def disconnectLive (s : Server σ) (id : ConnId) : Server σ :=
  if (s.roster.get? id).isSome then (s.disconnect id).2 else s

/-- Moves a connection to the tail of the table, as read now. -/
def touch (s : Server σ) (id : ConnId) : Server σ :=
  { s with roster := (s.roster.touch id s.now).2 }

/-- Says why nothing more can be read from a connection. -/
def sayEnded (s : Server σ) (id : ConnId) (failure : Option String) : Server σ :=
  match failure with
  | some cause => s.say .warn ("read error on " ++ toString id ++ ": " ++ cause)
  | none => s.say .debug ("connection " ++ toString id ++ " closed by peer")

/-- Takes a connection out of the table. -/
def release (s : Server σ) (id : ConnId) : Server σ :=
  let s := { s with roster := (s.roster.remove id).2 }
  s.say .debug ("connection " ++ toString id ++ " released ("
    ++ toString (s.refCount id) ++ " ref(s) left)")

/-- Takes in what the task of a connection reports. -/
def handle (s : Server σ) : Event → Server σ
  | .read id data =>
    match s.roster.get? id with
    | none => s
    -- What is read once the close has begun is dropped.
    | some (_, c) => if c.closing then s else (s.touch id).call (.received id data)
  | .ended id failure => (s.sayEnded id failure).disconnectLive id
  | .closed id =>
    match s.roster.get? id with
    | none => s
    | some _ => (s.call (.closed id)).release id

/-- Begins to close each of some connections that had not begun before; gives their number. -/
def disconnectEach (s : Server σ) : List ConnId → Nat × Server σ
  | [] => (0, s)
  | id :: rest =>
    let (first, s) := s.disconnect id
    let (count, s) := s.disconnectEach rest
    (if first then count + 1 else count, s)

/-- Begins to close every live connection; gives the number of those that had not begun before. -/
def disconnectAll (s : Server σ) : Nat × Server σ := s.disconnectEach s.roster.table.refs

/-- Visits each of some connections. -/
def visitEach (s : Server σ) (visit : ConnId → Reaction Unit) : List ConnId → Server σ
  | [] => s
  | id :: rest => (s.perform (visit id)).2.visitEach visit rest

/-- Visits every live connection, from the least to the most recently read, if there is anything to
do there; gives the number of live connections. -/
def iterate (s : Server σ) (visit : Option (ConnId → Reaction Unit)) : Nat × Server σ :=
  let s := match visit with
    | some visit => s.visitEach visit s.roster.table.refs
    | none => s
  (s.roster.table.size, s)

/-- Says that a connection is closed because it was silent. -/
def sayEvicted (s : Server σ) (id : ConnId) : Server σ :=
  match s.pool.get? id with
  | some c =>
    s.say .info ("closing connection " ++ toString id ++ " (" ++ c.peer.text ++ ") after "
      ++ String.ofList (c.idle s.now).render ++ " of silence")
  | none => s

/-- Begins to close each of some silent connections. -/
def evictEach (s : Server σ) : List ConnId → Server σ
  | [] => s
  | id :: rest =>
    let (first, s) := s.disconnect id
    (if first then s.sayEvicted id else s).evictEach rest

/-- The connections that have been silent for too long, if there is such a limit. -/
def silent (s : Server σ) : List ConnId :=
  if s.config.connTimeout.isZero then [] else s.roster.expired s.now s.config.connTimeout

/-- Begins to close the connections that have been silent for too long. -/
def sweep (s : Server σ) : Server σ := s.evictEach s.silent

/-- Counts a tick. -/
def beat (s : Server σ) : Server σ :=
  { s with heartbeats := s.heartbeats + 1 : Server σ }.say .debug
    ("on heartbeat (index " ++ toString s.heartbeats ++ ")")

/-- Ticks: tells the handler, then sweeps. -/
def heartbeat (s : Server σ) : Server σ :=
  (s.beat.call (.heartbeat s.heartbeats s.roster.table.ids)).sweep

end Server

end NetSession
