import NetSession.Client.Trial
import NetSession.Tool.Client
import NetSession.Tool.Counter
import NetSession.Tool.LogClient
import NetSession.Tool.LogServer
import NetSession.Tool.Server

/-!
# Running tools

A tool that runs on a host. Whatever arrives, everything then happens that can; an interrupt ends
the tool, and so can a fault. What goes on in the background then comes to its own end.
-/

namespace NetSession.Tool

/-- A tool at work. -/
inductive Program where
  /-- The server. -/
  | server (system : NetSession.Server.System Unit)
  /-- The client. -/
  | client (system : NetSession.Client.System Unit)
  /-- The counting peer, and whether it announced its address, since it was given no peer. -/
  | counter (transport : Transport Unit) (announced : Bool)
  /-- The log client. -/
  | logClient (client : LogClient)
  /-- The log server. -/
  | logServer (transport : Transport Nat)

namespace Program

/-- The socket that the tool needs from the start. -/
def socket? (settings : Settings) : CommandLine.Task → Except Fault (Option Socket)
  | .server options => do
    return some (.listener (← Server.address settings options) settings.serverConfig.listenBacklog)
  | .client _ => return none
  | .udpEcho options => return some (datagrams (← Counter.address settings options))
  | .logClient options => return some (datagrams (← LogClient.address settings options))
  | .logServer options => return some (datagrams (← LogServer.address settings options))
where
  /-- A datagram socket at an address. -/
  datagrams (address : Endpoint) : Socket :=
    .datagrams address (max settings.datagramConfig.recvBufferSize 1)

/-- Starts the tool that a command line asks for. -/
def start (host : Host) (settings : Settings) (now : Instant) :
    CommandLine.Task → Except Fault Program
  | .server options => (Server.start host settings options now).map .server
  | .client options => (Client.start settings options now).map .client
  | .udpEcho options =>
    (Counter.start host settings options now).map (.counter · options.peer.isNone)
  | .logClient options => (LogClient.start host settings options now).map .logClient
  | .logServer options => (LogServer.start host settings options now).map .logServer

/-- Lets happen what can happen to a client, at most `fuel` steps. If the host knows how attempts to
connect end, they all reach its network and end so. -/
def settleClient (host : Host) (y : NetSession.Client.System Unit) (fuel : Nat) :
    NetSession.Client.System Unit :=
  match host.dial y.client.target with
  | none => y.settle fuel
  | some network =>
    let trial : NetSession.Client.Trial Unit :=
      { system := y, network, plan := [], later := .reach }
    (trial.settle fuel).system

/-- What a transport holds of what it puts out. -/
def transportOutputs {σ : Type} (t : Transport σ) : List Output :=
  t.trace.filterMap fun
    | .said notice => some (.said notice)
    | .printed line => some (.printed line)
    | _ => none

/-- What the tool has put out since it was last taken. -/
def outputs : Program → List Output
  | .server y => Server.outputs y
  | .client y => Client.outputs y
  | .counter t _ => transportOutputs t
  | .logClient c => transportOutputs c.sender.transport
  | .logServer t => transportOutputs t

/-- What the tool has done with its connections since it was last taken. -/
def deeds : Program → List Deed
  | .server y => y.server.trace.filterMap fun
    | .wrote id data => some (.wrote id data)
    | .shut id => some (.shut id)
    | _ => none
  | .client y => y.client.trace.filterMap fun
    | .dialed attempt => some (.dialed attempt)
    | .wrote attempt data => some (.wrote attempt data)
    | .shut attempt => some (.shut attempt)
    | _ => none
  | .counter .. | .logClient _ | .logServer _ => []

/-- The datagram that the tool is to write next. -/
def datagram? : Program → Option Datagram
  | .server _ | .client _ => none
  | .counter t _ => t.next?
  | .logClient c => c.sender.transport.next?
  | .logServer t => t.next?

/-- Takes what the tool has put out and done. -/
def forget : Program → Program
  | .server y => .server y.forget
  | .client y => .client y.forget
  | .counter t announced => .counter t.forget announced
  | .logClient c =>
    .logClient { c with sender := { c.sender with transport := c.sender.transport.forget } }
  | .logServer t => .logServer t.forget

/-- The address that the tool's socket is bound to, if it is announced. -/
def announced? : Program → Option Endpoint
  | .counter t announced => if announced then some t.address else none
  | .logServer t => some t.address
  | .server _ | .client _ | .logClient _ => none

/-- The moment when the tool next has something to do by itself. -/
def due? : Program → Option Instant
  | .server y => earliest? [y.timer.map (·.due), y.pausedUntil]
  | .client y => y.timer.map (·.due)
  | .counter t _ => t.earliest?
  | .logClient c => earliest? [some c.timer.due, c.sender.transport.earliest?]
  | .logServer t => t.earliest?
where
  /-- The first of some moments. -/
  earliest? (moments : List (Option Instant)) : Option Instant :=
    (moments.filterMap (·.map (·.nanos))).min?.map Instant.mk

/-- The tool when something arrives that is meant for it. -/
def arrive (p : Program) (a : Arrival) : Program :=
  match p with
  | .server y => .server ((a.toServer?.bind y.step).getD y)
  | .client y => .client ((a.toClient?.bind y.step).getD y)
  | .counter t announced => .counter ((a.toTransport?.bind t.step).getD t) announced
  | .logClient c =>
    let t := c.sender.transport
    .logClient { c with
      sender := { c.sender with transport := (a.toTransport?.bind t.step).getD t } }
  | .logServer t => .logServer ((a.toTransport?.bind t.step).getD t)

/-- A transport that nobody asks anything of any more. -/
def release {σ : Type} (t : Transport σ) : Transport σ :=
  { t with asked := true, holders := t.holders - 1 }

/-- The tool when it is interrupted. -/
def interrupt : Program → Program
  | .server y => .server (Server.interrupt y)
  | .client y => .client (Client.interrupt y)
  | .counter t announced => .counter (release t) announced
  | .logClient c =>
    .logClient { c with sender := { c.sender with transport := release c.sender.transport } }
  | .logServer t => .logServer (release t)

end Program

/-- A tool that runs, or has ended while its background goes on. -/
structure Run where
  /-- The tool. -/
  program : Program
  /-- How it has ended, if it has. -/
  ended : Option (Except Fault Unit) := none

namespace Run

/-- Lets happen everything that can happen now, at most `fuel` steps. -/
def settle (r : Run) (host : Host) (fuel : Nat) : Run :=
  match r.program with
  | .server y => { r with program := .server (y.settle fuel) }
  | .client y => { r with program := .client (Program.settleClient host y fuel) }
  | .counter t announced =>
    { r with program := .counter (t.settle host.carry fuel) announced }
  | .logServer t => { r with program := .logServer (t.settle host.carry fuel) }
  | .logClient c =>
    let finish (c : LogClient) : Program :=
      .logClient { c with
        sender := { c.sender with transport := c.sender.transport.settle host.carry fuel } }
    if r.ended.isSome then { r with program := finish c }
    else
      match c.catchUp host c.sender.transport.now fuel with
      | .ok c => { r with program := finish c }
      | .error fault => { program := finish c, ended := some (.error fault) }

/-- Starts the tool that a command line asks for. -/
def start (host : Host) (settings : Settings) (task : CommandLine.Task) (fuel : Nat) :
    Except Fault Run := do
  return { program := ← Program.start host settings .zero task : Run }.settle host fuel

/-- Something arrives, and everything happens that can, at most `fuel` steps. -/
def arrive (r : Run) (host : Host) (arrival : Arrival) (fuel : Nat) : Run :=
  { r with program := r.program.arrive arrival }.settle host fuel

/-- The tool is interrupted; it ends unless it has ended before. -/
def interrupt (r : Run) (host : Host) (fuel : Nat) : Run :=
  if r.ended.isSome then r
  else { program := r.program.interrupt, ended := some (.ok ()) : Run }.settle host fuel

/-- The run with what was put out and done taken. -/
def forget (r : Run) : Run := { r with program := r.program.forget }

end Run

end NetSession.Tool
