import NetSession.Closed
import NetSession.Datagram.Reaction
import NetSession.Settings.Basic

/-!
# Datagram transports

A transport owns a socket: it hands every datagram that arrives to its handler, and writes those
that were sent. Sending only queues: a datagram that the network refuses is lost with a notice.

The task of a transport runs until someone shuts it down, or until nobody holds it any more. Then
nothing can be sent, and what was queued is dropped; the socket stays bound as long as someone holds
the transport. A `Move` is one step of the task, or something that comes from outside; `step` takes
it if it can be taken.
-/

namespace NetSession

namespace Datagram

/-- Something that happened. -/
inductive Happening where
  /-- The handler was called. -/
  | called (callback : Callback)
  /-- Someone sent a datagram, which worked or not. -/
  | sent (datagram : Datagram) (ok : Bool)
  /-- A line was printed. -/
  | printed (line : String)
  /-- Something was said. -/
  | said (notice : Console.Notice)
  deriving DecidableEq

/-- What the network does with a datagram that is written. -/
inductive Fate where
  /-- It takes so many bytes. -/
  | taken (count : Nat)
  /-- It refuses it. -/
  | refused (cause : String)
  deriving DecidableEq, Repr

end Datagram

/-- A datagram transport with a handler whose memory is of type `σ`. -/
structure Transport (σ : Type) where
  /-- How it runs. -/
  config : DatagramConfig
  /-- The address that its socket is bound to. -/
  address : Endpoint
  /-- What it calls. -/
  handler : Datagram.Handler σ
  /-- What the handler remembers. -/
  memory : σ
  /-- The moment at hand. -/
  now : Instant := .zero
  /-- The datagrams that wait to be written, in order. -/
  outbox : List Datagram := []
  /-- What was put off, with the moments when it is due. Each holds the transport. -/
  delayed : List (Instant × Datagram.Task) := []
  /-- How many others hold the transport. -/
  holders : Nat := 1
  /-- Whether it was asked to shut down. -/
  asked : Bool := false
  /-- Whether its task runs. -/
  running : Bool := true
  /-- What happened so far, in order. -/
  trace : List Datagram.Happening := []

namespace Transport

open Datagram

variable {σ : Type}

/-- A step of the task, or something from outside. -/
inductive Move where
  /-- The task ends. -/
  | stop
  /-- The next datagram is written, and something becomes of it. -/
  | write (fate : Fate)
  /-- A datagram arrives. -/
  | receive (datagram : Datagram)
  /-- A datagram cannot be received. -/
  | fail (cause : String)
  /-- What was put off first of all that is due is done. -/
  | wake
  /-- Someone sends a datagram. -/
  | send (datagram : Datagram)
  /-- Someone asks it to shut down. -/
  | shutdown
  /-- One more holds it. -/
  | clone
  /-- One fewer holds it. -/
  | drop
  /-- Time passes. -/
  | pass (d : Duration)

/-- Writes down that something happened. -/
def note (t : Transport σ) (h : Happening) : Transport σ := { t with trace := t.trace ++ [h] }

/-- Says something in the transport's name. -/
def say (t : Transport σ) (severity : Console.Severity) (message : String) : Transport σ :=
  t.note (.said (.say .transport severity ("[uvx-udp] " ++ t.config.name ++ " " ++ message)))

/-- A transport on a socket that was just bound. -/
def start (config : DatagramConfig) (address : Endpoint) (handler : Handler σ) (memory : σ)
    (now : Instant) : Transport σ :=
  let t : Transport σ := { config, address, handler, memory, now }
  t.say .info ("bound to " ++ address.text)

/-- Queues a datagram. It fails once the task has ended. -/
def enqueue (t : Transport σ) (datagram : Datagram) : Except Closed (Transport σ) :=
  if t.running then .ok { t with outbox := t.outbox ++ [datagram] } else .error .transport

/-- Sends a datagram; says whether that worked. -/
def send (t : Transport σ) (datagram : Datagram) : Bool × Transport σ :=
  match t.enqueue datagram with
  | .ok t => (true, t.note (.sent datagram true))
  | .error _ => (false, t.note (.sent datagram false))

/-- Does what was put off. -/
def performTask (t : Transport σ) : Task → Transport σ
  | .done => t
  | .send datagram next =>
    let (ok, t) := t.send datagram
    t.performTask (next ok)
  | .say notice next => (t.note (.said notice)).performTask next

/-- Does what a reaction says, and gives its value. -/
def perform {τ : Type} (t : Transport σ) : Reaction τ → τ × Transport σ
  | .done value => (value, t)
  | .send datagram next =>
    let (ok, t) := t.send datagram
    t.perform (next ok)
  | .later delay task next =>
    { t with delayed := t.delayed ++ [(t.now.after delay, task)] : Transport σ }.perform next
  | .print line next => (t.note (.printed line)).perform next
  | .say notice next => (t.note (.said notice)).perform next

/-- The transport with nothing written down. -/
def forget (t : Transport σ) : Transport σ := { t with trace := [] }

/-- Whether someone holds the transport. -/
def isHeld (t : Transport σ) : Bool := 0 < t.holders + t.delayed.length

/-- Whether its socket is still bound. -/
def isBound (t : Transport σ) : Bool := t.running || t.isHeld

/-- The task ends. -/
def stop (t : Transport σ) : Transport σ :=
  { t with running := false, outbox := [] : Transport σ }.say .debug "shut down"

/-- The size of the buffer that datagrams are received into. -/
def bufferSize (t : Transport σ) : Nat := max t.config.recvBufferSize 1

/-- A datagram arrives: it is cut to the buffer, and handed to the handler if anybody still holds
the transport. -/
def receive (t : Transport σ) (datagram : Datagram) : Transport σ :=
  if t.isHeld then
    let data := datagram.data.take t.bufferSize
    let callback : Callback := ⟨{ datagram with data }, data.length = t.bufferSize⟩
    let t := t.note (.called callback)
    let (memory, t) := t.perform (t.handler callback t.memory)
    { t with memory := memory }
  else t.stop

/-- Something becomes of a datagram that was written. -/
def written (t : Transport σ) (datagram : Datagram) : Fate → Transport σ
  | .taken count =>
    if count < datagram.data.length then
      t.say .warn ("short send to " ++ datagram.peer.text ++ ": " ++ toString count ++ " of "
        ++ toString datagram.data.length ++ " bytes")
    else t
  | .refused cause => t.say .warn ("send to " ++ datagram.peer.text ++ " failed: " ++ cause)

/-- The datagram that is to be written next. -/
def next? (t : Transport σ) : Option Datagram := if t.running then t.outbox.head? else none

/-- The moment when the first of what was put off is due. -/
def earliest? (t : Transport σ) : Option Instant := (t.delayed.map (·.1.nanos)).min?.map Instant.mk

/-- What was put off and is due, the earliest first, with what is left. -/
def due? (t : Transport σ) : Option (Task × List (Instant × Task)) := do
  let earliest ← t.earliest?
  if t.now.nanos < earliest.nanos then none
  let i ← t.delayed.findIdx? (·.1 == earliest)
  let (_, task) ← t.delayed[i]?
  return (task, t.delayed.eraseIdx i)

/-- One step, if it can be taken. -/
def step (t : Transport σ) : Move → Option (Transport σ)
  | .stop => if t.running ∧ (t.asked ∨ !t.isHeld) then some t.stop else none
  | .write fate =>
    match t.running, t.outbox with
    | true, datagram :: rest => some ({ t with outbox := rest : Transport σ }.written datagram fate)
    | _, _ => none
  | .receive datagram => if t.running then some (t.receive datagram) else none
  | .fail cause => if t.running then some (t.say .warn ("receive error: " ++ cause)) else none
  | .wake => t.due?.map fun (task, rest) => { t.performTask task with delayed := rest }
  | .send datagram => some (t.send datagram).2
  | .shutdown => some { t with asked := true }
  | .clone => if 0 < t.holders then some { t with holders := t.holders + 1 } else none
  | .drop => if 0 < t.holders then some { t with holders := t.holders - 1 } else none
  | .pass d => some { t with now := t.now.after d }

/-- A run: moves that can be taken one after the other. -/
def run (t : Transport σ) : List Move → Option (Transport σ)
  | [] => some t
  | move :: rest => (t.step move).bind (·.run rest)

/-- Lets happen what can happen without anything arriving, at most `fuel` steps; `network` says what
becomes of datagrams, if that is known at once. -/
def settle (t : Transport σ) (network : Datagram → Option Fate) : Nat → Transport σ
  | 0 => t
  | fuel + 1 =>
    let moves := [Move.wake, .stop] ++ ((t.outbox.head?.bind network).map Move.write).toList
    match moves.findSome? t.step with
    | some t => t.settle network fuel
    | none => t

end Transport

end NetSession
