import NetSession.CommandLine.Grammar
import NetSession.Duration.Reader

/-!
# The commands

What the tools can be asked to do, and how it is written on a command line.
-/

namespace NetSession.CommandLine

/-- How to run the server. -/
structure ServerOptions where
  /-- Where to listen. -/
  listen : Option String
  /-- The heartbeat interval. -/
  heartbeat : Option Duration
  /-- The idle time after which a connection is closed. -/
  connTimeout : Option Duration
  /-- Whether received data are sent back. -/
  echo : Bool
  deriving DecidableEq, Repr

/-- How to run the client. -/
structure ClientOptions where
  /-- The server. -/
  connect : Option String
  /-- The heartbeat and reconnect interval. -/
  heartbeat : Option Duration
  /-- What is sent after connecting and on every heartbeat. -/
  message : Option String
  deriving DecidableEq, Repr

/-- How to run a counting peer. -/
structure UdpEchoOptions where
  /-- The peer to start counting with. -/
  peer : Option String
  deriving DecidableEq, Repr

/-- How to send log records. -/
structure LogClientOptions where
  /-- The log server. -/
  target : Option String
  /-- The emitter's name. -/
  name : Option String
  /-- The records of a round. -/
  bench : Option Nat
  /-- The time between rounds. -/
  interval : Option Duration
  deriving DecidableEq, Repr

/-- How to receive log records. -/
structure LogServerOptions where
  /-- Where to listen. -/
  listen : Option String
  /-- Whether records are printed as JSON. -/
  json : Bool
  deriving DecidableEq, Repr

/-- What to do. -/
inductive Task where
  /-- Accept connections and show what arrives. -/
  | server (options : ServerOptions)
  /-- Keep a connection to a server alive. -/
  | client (options : ClientOptions)
  /-- Count back and forth with a peer. -/
  | udpEcho (options : UdpEchoOptions)
  /-- Send log records. -/
  | logClient (options : LogClientOptions)
  /-- Receive and print log records. -/
  | logServer (options : LogServerOptions)
  deriving DecidableEq, Repr

/-- A whole command line. -/
structure Request where
  /-- The least severity that is logged. -/
  logLevel : String
  /-- The path of the settings file. -/
  config : String
  /-- What to do. -/
  task : Task
  deriving DecidableEq, Repr

/-- An option that takes any text. -/
def textOption (name : String) : Opt := ⟨name, none, .value fun _ => .ok ()⟩

/-- An option that takes the path of a file, which cannot be empty. -/
def pathOption (name : String) : Opt :=
  ⟨name, none, .value fun value => if value = "" then .error (.missingValue name) else .ok ()⟩

/-- An option that takes a duration. -/
def durationOption (name : String) : Opt :=
  ⟨name, none, .value fun value =>
    match Duration.read value with
    | .ok _ => .ok ()
    | .error _ => .error (.invalidValue name value)⟩

/-- The value of a text that is a number of 32 bits, with an optional sign. -/
def count? (text : String) : Option Nat :=
  match text.toList with
  | '-' :: digits =>
    match digits, Decimal.readDigits 0x8000000000000001 0 digits with
    | _ :: _, .ok 0 => some 0
    | _, _ => none
  | digits => (Decimal.read Decimal.bound32 digits).toOption

/-- An option that takes a number. -/
def countOption (name : String) : Opt :=
  ⟨name, none, .value fun value =>
    if (count? value).isSome then .ok () else .error (.invalidValue name value)⟩

/-- An option that is there or not. -/
def flagOption (name : String) : Opt := ⟨name, none, .flag⟩

/-- The option that asks for help. -/
def helpOption : Opt := ⟨"help", some 'h', .help⟩

/-- The options that stand before or behind the name of a command. -/
def commonOptions : List Opt := [textOption "log-level", pathOption "config", helpOption]

/-- The commands with their options. -/
def commands : List (String × Command) := [
  ("server", ⟨[textOption "listen", durationOption "heartbeat", durationOption "conn-timeout",
    flagOption "echo"] ++ commonOptions, none⟩),
  ("client", ⟨[textOption "connect", durationOption "heartbeat", textOption "message"]
    ++ commonOptions, none⟩),
  ("udp-echo", ⟨commonOptions, some "peer"⟩),
  ("log-client", ⟨[textOption "target", textOption "name", countOption "bench",
    durationOption "interval"] ++ commonOptions, none⟩),
  ("log-server", ⟨[textOption "listen", flagOption "json"] ++ commonOptions, none⟩)]

/-- The grammar of the whole line. -/
def grammar : Group := ⟨commonOptions ++ [⟨"version", some 'V', .version⟩], commands⟩

/-- The duration given to an option. -/
def Given.duration? (given : Given) (name : String) : Option Duration :=
  (given.value? name).bind fun text => (Duration.read text).toOption

/-- What a command of the grammar asks for. -/
def taskOf? (command : String) (given : Given) : Option Task :=
  match command with
  | "server" => some (.server ⟨given.value? "listen", given.duration? "heartbeat",
      given.duration? "conn-timeout", given.has "echo"⟩)
  | "client" => some (.client ⟨given.value? "connect", given.duration? "heartbeat",
      given.value? "message"⟩)
  | "udp-echo" => some (.udpEcho ⟨given.value? "peer"⟩)
  | "log-client" => some (.logClient ⟨given.value? "target", given.value? "name",
      (given.value? "bench").bind count?, given.duration? "interval"⟩)
  | "log-server" => some (.logServer ⟨given.value? "listen", given.has "json"⟩)
  | _ => none

/-- Reads a command line, without the name of the program. An option behind the command's name
wins over the same option before it. -/
def Request.read (words : List String) : Except Fault Request := do
  let line ← grammar.read words
  let common (name default : String) : String :=
    ((line.inner.value? name).or (line.outer.value? name)).getD default
  match taskOf? line.command line.inner with
  | some task => return ⟨common "log-level" "info", common "config" "uvx.yaml", task⟩
  | none => throw (.invalidCommand line.command)

end NetSession.CommandLine
