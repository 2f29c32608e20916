import NetSession.CommandLine.Commands
import NetSession.Counting
import NetSession.Datagram.Transport
import NetSession.Tool.Fault
import NetSession.Tool.Host

/-!
# The counting tool

Counts back and forth with a peer: answers each number with the next one, after a pause. It waits
for a peer, or begins with 1 if it is given one.
-/

namespace NetSession.Tool.Counter

open NetSession.Datagram

/-- How long an answer waits. -/
def pause : Duration := .ofSeconds 1

/-- A notice of the tool. -/
def say (severity : Console.Severity) (message : String) : Console.Notice :=
  .ofComponent "udp" severity message

/-- Sends a number to a peer. -/
def answer (peer : Endpoint) (n : Nat) : Task :=
  .send ⟨peer, Counting.datagram n⟩ fun ok =>
    if ok then .done
    else
      .say (say .warn ("Reply to " ++ peer.text ++ " failed: " ++ Closed.transport.message)) .done

/-- The handler of the tool. -/
def handler : Handler Unit := fun ⟨⟨peer, data⟩, filled⟩ _ =>
  let counted : Reaction Unit := match Counting.next? data with
    | none =>
      .say (say .warn ("Ignoring " ++ toString data.length ++ " bytes from " ++ peer.text))
        (.done ())
    | some next =>
      .say (say .info ("Received " ++ toString (next - 1) ++ " from " ++ peer.text))
        (.later pause (answer peer next) (.done ()))
  if filled then .say (say .warn ("Datagram from " ++ peer.text ++ " was truncated")) counted
  else counted

/-- The peer that the tool begins with, if it is given one. -/
def peer? (settings : Settings) (options : CommandLine.UdpEchoOptions) :
    Except Fault (Option Endpoint) := do
  let bind ← (Endpoint.read settings.udp.bind).mapError .endpoint
  match options.peer with
  | none => return none
  | some peer => return some (← (Endpoint.resolve peer bind.port).mapError .endpoint)

/-- Where the tool receives: at the address of the settings, or anywhere if it is given a peer. -/
def address (settings : Settings) (options : CommandLine.UdpEchoOptions) :
    Except Fault Endpoint := do
  match ← peer? settings options with
  | none => (Endpoint.read settings.udp.bind).mapError .endpoint
  | some peer => return LogSender.bindAddress peer

/-- Starts the tool. -/
def start (host : Host) (settings : Settings) (options : CommandLine.UdpEchoOptions)
    (now : Instant) : Except Fault (Transport Unit) := do
  let peer ← peer? settings options
  let address ← address settings options
  let bound ← (host.bind address).mapError (.bind address)
  let t := Transport.start settings.datagramConfig bound handler () now
  match peer with
  | none => return t.note (.said (say .info ("Waiting for a peer on " ++ bound.text)))
  | some peer =>
    let t := (t.send ⟨peer, Counting.datagram 1⟩).2
    return t.note (.said (say .info ("Sent 1 to " ++ peer.text)))

end NetSession.Tool.Counter
