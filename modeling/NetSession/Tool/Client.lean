import NetSession.Client.Script
import NetSession.Client.System
import NetSession.CommandLine.Commands
import NetSession.Tool.Fault
import NetSession.Tool.Host

/-!
# The client tool

Keeps a connection to a server, says what arrives, and sends a message after connecting and on every
heartbeat if it is given one.
-/

namespace NetSession.Tool.Client

open NetSession.Client

/-- A notice of the tool. -/
def say (severity : Console.Severity) (message : String) : Console.Notice :=
  .ofComponent "client" severity message

/-- The script of the tool, which sends its message if it is given one. -/
def script (message : Option String) : Script where
  greet := message
  ping := message
  regret := some (say .warn ("Send failed: " ++ Closed.client.message))

/-- What is said about data that came in. -/
def received (data : Bytes) : Console.Notice :=
  say .info ("Received " ++ toString data.length ++ " bytes: "
    ++ String.ofList (Utf8.decodeLossy data))

/-- What is said about a callback in a state. -/
def announcement (target : Endpoint) (state : State) : Callback → Console.Notice
  | .connected => say .info ("Connected to " ++ target.text)
  | .connectFailed cause => say .warn ("Connect to " ++ target.text ++ " failed: " ++ cause)
  | .received data => received data
  | .closing => say .info "Connection closing"
  | .closed => say .info "Connection closed"
  | .heartbeat index => say .debug ("Heartbeat " ++ toString index ++ " (" ++ state.name ++ ")")

/-- The handler of the tool: it says what happens, and then acts by its script. -/
def handler (target : Endpoint) (message : Option String) : Handler Unit := fun callback memory =>
  .look fun state =>
    .say (announcement target state callback) ((script message).handler callback memory)

/-- The configuration that settings and options give. -/
def config (settings : Settings) (options : CommandLine.ClientOptions) : ClientConfig :=
  let config := settings.clientConfig
  { config with heartbeatInterval := options.heartbeat.getD config.heartbeatInterval }

/-- Starts the tool. -/
def start (settings : Settings) (options : CommandLine.ClientOptions) (now : Instant) :
    Except Fault (System Unit) := do
  let target ← (Endpoint.read (options.connect.getD settings.client.connect)).mapError .endpoint
  return System.start (config settings options) target (handler target options.message) () now

/-- Ends the tool. -/
def interrupt (y : System Unit) : System Unit := { y with client := y.client.askShutdown }

/-- What the tool puts out. -/
def outputs (y : System Unit) : List Output :=
  y.client.trace.filterMap fun
    | .said notice => some (.said notice)
    | _ => none

end NetSession.Tool.Client
