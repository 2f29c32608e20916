import NetSession.CommandLine.Commands
import NetSession.Server.System
import NetSession.Tool.Fault
import NetSession.Tool.Host

/-!
# The server tool

Accepts connections, says what arrives, and sends it back if it is asked to.
-/

namespace NetSession.Tool.Server

open NetSession.Server

/-- A notice of the tool. -/
def say (severity : Console.Severity) (message : String) : Console.Notice :=
  .ofComponent "server" severity message

/-- What is said about data that came in. -/
def received (id : ConnId) (data : Bytes) : Console.Notice :=
  say .info ("Received " ++ toString data.length ++ " bytes from " ++ toString id ++ ": "
    ++ String.ofList (Utf8.decodeLossy data))

/-- What is said when data cannot be sent back. -/
def echoFailed (id : ConnId) : Console.Notice :=
  say .warn ("Echo to " ++ toString id ++ " failed: " ++ Closed.connection.message)

/-- The handler of the tool. -/
def handler (echo : Bool) : Handler Unit := fun callback _ =>
  match callback with
  | .accepted id => .look id fun c =>
    let peer := (c.map (·.peer.text)).getD ""
    .say (say .info ("Connection " ++ toString id ++ " from " ++ peer)) (.done ())
  | .acceptFailed cause => .say (say .warn ("Accept failed: " ++ cause)) (.done ())
  | .received id data =>
    .say (received id data)
      (if echo then
        .send id data fun ok => if ok then .done () else .say (echoFailed id) (.done ())
      else .done ())
  | .closing id => .say (say .info ("Connection " ++ toString id ++ " closing")) (.done ())
  | .closed id => .say (say .info ("Connection " ++ toString id ++ " closed")) (.done ())
  | .heartbeat index live =>
    .say (say .debug ("Heartbeat " ++ toString index ++ ": " ++ toString live.length
      ++ " connections")) (.done ())

/-- The configuration that settings and options give. -/
def config (settings : Settings) (options : CommandLine.ServerOptions) : ServerConfig :=
  let config := settings.serverConfig
  { config with
    heartbeatInterval := options.heartbeat.getD config.heartbeatInterval
    connTimeout := options.connTimeout.getD config.connTimeout }

/-- Where the tool listens. -/
def address (settings : Settings) (options : CommandLine.ServerOptions) : Except Fault Endpoint :=
  (Endpoint.read (options.listen.getD settings.server.listen)).mapError .endpoint

/-- Starts the tool. -/
def start (host : Host) (settings : Settings) (options : CommandLine.ServerOptions)
    (now : Instant) : Except Fault (System Unit) := do
  let address ← address settings options
  let bound ← (host.listen address).mapError (.listen address)
  let y := System.start (config settings options) (handler options.echo) () now
  let s := y.server.say .info ("listening on " ++ bound.text)
  return { y with server := s.note (.said (say .info ("Listening on " ++ bound.text))) }

/-- Ends the tool: closes all connections, then the listener. -/
def interrupt (y : System Unit) : System Unit :=
  let (count, s) := y.server.disconnectAll
  let said := say .info ("Disconnected " ++ toString count ++ " connections")
  { y with server := s.note (.said said), commands := y.commands ++ [.shutdown] }

/-- What the tool puts out. -/
def outputs (y : System Unit) : List Output :=
  y.server.trace.filterMap fun
    | .said notice => some (.said notice)
    | _ => none

end NetSession.Tool.Server
