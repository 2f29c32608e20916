import NetSession.Server.System

/-!
# Servers in small steps

`System.step` lets the server run a callback to its end and close many connections at once. Where
the server, the tasks of its connections and the holders of references run beside each other, they
take their steps in any order. A `Machine` is a system whose server does one thing at a time: it
takes something from a mailbox, does one thing that a reaction asks for, marks a connection as
closing, gives one signal. What it still has to do stands in its `stage` and its `jobs`, and
everybody else may take steps in between.
-/

namespace NetSession.Server

variable {σ τ : Type}

/-- Something that a server has yet to do. -/
inductive Job where
  /-- To go on with a visit. -/
  | visit (rest : Reaction Unit)
  /-- To answer with the number of live connections. -/
  | count
  /-- To begin to close a connection. -/
  | disconnect (id : ConnId)
  /-- To begin to close some connections, and to answer with the number of those that had not begun
  before. So many have been counted. -/
  | disconnectEach (ids : List ConnId) (counted : Nat)
  /-- To begin to close some silent connections. -/
  | evictEach (ids : List ConnId)
  /-- To say that a silent connection is closed. -/
  | sayEvicted (id : ConnId)

/-- The callback that a server is in. -/
inductive Stage (σ : Type) where
  /-- None. -/
  | free
  /-- One that was called, and has this to do. -/
  | running (callback : Callback) (rest : Reaction σ)
  /-- One that has returned. What it was called for is yet to be done. -/
  | returned (callback : Callback)

/-- A system whose server is in the middle of something. -/
structure Machine (σ : Type) where
  /-- The system. -/
  system : System σ
  /-- The callback at hand. -/
  stage : Stage σ := .free
  /-- What is to be done after that, before the server looks at its mailboxes again. -/
  jobs : List Job := []

/-- A step of a machine. -/
inductive Turn where
  /-- The server goes on with what it is at. -/
  | proceed
  /-- The server starts something, or something else happens. -/
  | move (move : Move)

/-- Whether a move is the server's. -/
def Move.isServer : Move → Bool
  | .serve | .accept | .resume | .handle | .close | .tick => true
  | _ => false

/-- Does the first thing that a reaction asks for; gives its value if there is no more, else the
rest. -/
def advance (s : Server σ) : Reaction τ → (τ ⊕ Reaction τ) × Server σ
  | .done value => (.inl value, s)
  | .look id next => (.inr (next (s.pool.get? id)), s)
  | .send id data next =>
    let (ok, s) := s.send id data
    (.inr (next ok), s)
  | .close id next =>
    let (ok, s) := s.askClose id
    (.inr (next ok), s)
  | .writeExtra id data next => (.inr next, s.setPool (s.pool.modify id (·.writeExtra data)))
  | .keep id next => (.inr next, { s with held := id :: s.held })
  | .release id next => (.inr next, { s with held := s.held.erase id })
  | .say notice next => (.inr next, s.note (.said notice))

namespace Machine

/-- A machine with a server that was just started. -/
def start (config : ServerConfig) (handler : Handler σ) (memory : σ) (now : Instant) : Machine σ :=
  { system := .start config handler memory now }

/-- The part that owns the table. -/
abbrev server (m : Machine σ) : Server σ := m.system.server

/-- The machine with another part that owns the table. -/
def setServer (m : Machine σ) (s : Server σ) : Machine σ :=
  { m with system := { m.system with server := s } }

/-- Answers a command with a count. -/
def reply (m : Machine σ) (count : Nat) : Machine σ :=
  { m with system := { m.system with replies := m.system.replies ++ [count] } }

/-- Whether the server is at nothing. -/
def isIdle (m : Machine σ) : Bool :=
  match m.stage, m.jobs with
  | .free, [] => true
  | _, _ => false

/-- Calls a callback. -/
def call (m : Machine σ) (callback : Callback) : Machine σ :=
  { m.setServer (m.server.note (.called callback)) with
    stage := .running callback (m.server.handler callback m.server.memory) }

/-- Marks a connection as closing and calls the callback, if it was not marked before. What is to be
done afterwards depends on that. -/
def disconnect (m : Machine σ) (id : ConnId) (jobs : Bool → List Job) : Machine σ :=
  let (first, pool) := m.server.pool.beginClose id
  -- The signal follows when the callback has returned, see `conclude`.
  let m := { m with jobs := jobs first }
  if first then (m.setServer (m.server.setPool pool)).call (.closing id) else m

/-- Does a job, which is no longer among those to be done. -/
def perform (m : Machine σ) : Job → Machine σ
  | .visit rest =>
    match m.server.advance rest with
    | (.inl (), s) => m.setServer s
    | (.inr rest, s) => { m.setServer s with jobs := .visit rest :: m.jobs }
  | .count => m.reply m.server.roster.table.size
  | .disconnect id => m.disconnect id fun _ => m.jobs
  | .disconnectEach [] counted => m.reply counted
  | .disconnectEach (id :: ids) counted =>
    m.disconnect id fun first =>
      .disconnectEach ids (if first then counted + 1 else counted) :: m.jobs
  | .evictEach [] => m
  | .evictEach (id :: ids) =>
    m.disconnect id fun first =>
      if first then .sayEvicted id :: .evictEach ids :: m.jobs else .evictEach ids :: m.jobs
  | .sayEvicted id => m.setServer (m.server.sayEvicted id)

/-- Does what a callback was called for, once it has returned. -/
def conclude (m : Machine σ) : Callback → Machine σ
  | .accepted id => { m with system := { m.system with streams := m.system.streams.insert id {} } }
  | .acceptFailed _ =>
    { m with system := { m.system with pausedUntil := some (m.server.now.after acceptPause) } }
  | .received _ _ => m
  | .closing id => m.setServer (m.server.signalStop id)
  | .closed id => m.setServer (m.server.release id)
  | .heartbeat _ _ => { m with jobs := .evictEach m.server.silent :: m.jobs }

/-- The server goes on with what it is at. -/
def proceed (m : Machine σ) : Option (Machine σ) :=
  match m.stage, m.jobs with
  | .running callback rest, _ =>
    match m.server.advance rest with
    | (.inl memory, s) =>
      some { m.setServer ({ s with memory := memory : Server σ }.note (.returned callback)) with
        stage := .returned callback }
    | (.inr rest, s) => some { m.setServer s with stage := .running callback rest }
  | .returned callback, _ => some ({ m with stage := .free }.conclude callback)
  | .free, job :: rest => some ({ m with jobs := rest }.perform job)
  | .free, [] => none

/-- Starts to serve a command. -/
def serve (m : Machine σ) : Command → Machine σ
  | .iterate none => { m with jobs := [.count] }
  | .iterate (some visit) =>
    { m with jobs := (m.server.roster.table.refs.map fun id => .visit (visit id)) ++ [.count] }
  | .disconnectAll => { m with jobs := [.disconnectEach m.server.roster.table.refs 0] }
  | .shutdown => { m with system := m.system.stop }

/-- Starts to accept what was at the listener. -/
def accept (m : Machine σ) : Arrival → Machine σ
  | .peer address => (m.setServer (m.server.enter address)).call (.accepted m.server.nextId)
  | .failure cause => (m.setServer (m.server.sayRefused cause)).call (.acceptFailed cause)

/-- Is about to close a connection, if it is live. -/
def disconnectLive (m : Machine σ) (id : ConnId) : Machine σ :=
  if (m.server.roster.get? id).isSome then { m with jobs := [.disconnect id] } else m

/-- Starts to take in what the task of a connection reports. -/
def handle (m : Machine σ) : Event → Machine σ
  | .read id data =>
    match m.server.roster.get? id with
    | none => m
    | some (_, c) =>
      if c.closing then m else (m.setServer (m.server.touch id)).call (.received id data)
  | .ended id failure => (m.setServer (m.server.sayEnded id failure)).disconnectLive id
  | .closed id =>
    match m.server.roster.get? id with
    | none => m
    | some _ => m.call (.closed id)

/-- The server starts a move of its own. -/
def begin (m : Machine σ) : Move → Option (Machine σ)
  | .serve =>
    match m.system.running, m.system.commands with
    | true, command :: rest =>
      some ({ m with system := { m.system with commands := rest } }.serve command)
    | _, _ => none
  | .accept =>
    match m.system.running, m.system.pausedUntil, m.system.arrivals with
    | true, none, arrival :: rest =>
      some ({ m with system := { m.system with arrivals := rest } }.accept arrival)
    | _, _, _ => none
  | .handle =>
    match m.system.running, m.system.events with
    | true, event :: rest =>
      some ({ m with system := { m.system with events := rest } }.handle event)
    | _, _ => none
  | .close =>
    match m.system.running, m.server.pool.requests with
    | true, id :: rest =>
      let s := m.server.setPool { m.server.pool with requests := rest }
      some ((m.setServer s).disconnectLive id)
    | _, _ => none
  | .tick =>
    match m.system.running, m.system.timer with
    | true, some timer =>
      if timer.isDue m.server.now then
        let s := m.server.beat
        let system := { m.system with timer := some (timer.tick m.server.now), server := s }
        some ({ m with system := system }.call
          (.heartbeat m.server.heartbeats m.server.roster.table.ids))
      else none
    | _, _ => none
  -- What is not the server's happens at once, whatever the server is at.
  | move => (m.system.step move).map fun system => { m with system := system }

/-- One step of a run, if it can be taken. The server starts nothing before it is done with what it
is at. -/
def step (m : Machine σ) : Turn → Option (Machine σ)
  | .proceed => m.proceed
  | .move move => if move.isServer && !m.isIdle then none else m.begin move

/-- A run: steps that can be taken one after the other. -/
def run (m : Machine σ) : List Turn → Option (Machine σ)
  | [] => some m
  | turn :: rest => (m.step turn).bind (·.run rest)

end Machine

end NetSession.Server
