import NetSession.CommandLine.Commands
import NetSession.Datagram.Transport
import NetSession.Record.Item
import NetSession.Record.Notice
import NetSession.Tool.Fault
import NetSession.Tool.Host

/-!
# The log server

Receives log records, and prints them as lines of JSON or says them one by one.
-/

namespace NetSession.Tool.LogServer

open NetSession.Datagram

/-- A notice of the tool. -/
def say (severity : Console.Severity) (message : String) : Console.Notice :=
  .ofComponent "log" severity message

/-- The handler of the tool, which remembers how many records it has received. -/
def handler (json : Bool) : Handler Nat := fun ⟨⟨peer, data⟩, _⟩ count =>
  let outcome : Reaction Nat := match Record.parse data >>= Record.item with
    | .error fault =>
      .say (say .warn ("Bad record from " ++ peer.text ++ ": " ++ fault.message)) (.done count)
    | .ok item =>
      if json then .print item.json (.done (count + 1))
      else
        .say (say .info ("#" ++ toString (count + 1) ++ " " ++ item.summary)) (.done (count + 1))
  (Record.notices data).foldr .say outcome

/-- Where the tool receives. -/
def address (settings : Settings) (options : CommandLine.LogServerOptions) :
    Except Fault Endpoint :=
  (Endpoint.read (options.listen.getD settings.log.target)).mapError .endpoint

/-- Starts the tool. -/
def start (host : Host) (settings : Settings) (options : CommandLine.LogServerOptions)
    (now : Instant) : Except Fault (Transport Nat) := do
  let bind ← address settings options
  let bound ← (host.bind bind).mapError (.bind bind)
  let t := Transport.start settings.datagramConfig bound (handler options.json) 0 now
  return t.note (.said (say .info ("Receiving log records on " ++ bound.text)))

end NetSession.Tool.LogServer
