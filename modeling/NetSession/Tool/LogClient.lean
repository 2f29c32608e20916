import NetSession.Bench
import NetSession.CommandLine.Commands
import NetSession.Tool.Fault
import NetSession.Tool.Host

/-!
# The log client

Sends log records in rounds, the first at once.
-/

namespace NetSession.Tool

/-- A running log client. -/
structure LogClient where
  /-- What sends the records. -/
  sender : LogSender
  /-- The number of records of a round. -/
  bench : Nat
  /-- The timer of the rounds. -/
  timer : Timer
  /-- The number of rounds so far. -/
  rounds : Nat := 0

namespace LogClient

/-- A notice of the tool. -/
def say (severity : Console.Severity) (message : String) : Console.Notice :=
  .ofComponent "log" severity message

/-- Writes down that something was said. -/
def note (c : LogClient) (notice : Console.Notice) : LogClient :=
  { c with sender := { c.sender with transport := c.sender.transport.note (.said notice) } }

/-- Where the records go. -/
def target (settings : Settings) (options : CommandLine.LogClientOptions) : Except Fault Endpoint :=
  (Endpoint.read (options.target.getD settings.log.target)).mapError .endpoint

/-- Where the tool sends from. -/
def address (settings : Settings) (options : CommandLine.LogClientOptions) :
    Except Fault Endpoint :=
  (target settings options).map LogSender.bindAddress

/-- Starts the tool. -/
def start (host : Host) (settings : Settings) (options : CommandLine.LogClientOptions)
    (now : Instant) : Except Fault LogClient := do
  let target ← target settings options
  let name := options.name.getD settings.log.name
  let bench := options.bench.getD settings.log.bench
  let interval := options.interval.getD (.ofSeconds settings.log.intervalSecs)
  let emitter ← (Emitter.new name host.pid).mapError .record
  let address := LogSender.bindAddress target
  let bound ← (host.bind address).mapError (.bind address)
  let c : LogClient :=
    { sender := .start emitter target bound now, bench, timer := .rounds now interval }
  return c.note (say .info ("Sending " ++ toString bench ++ " records every "
    ++ String.ofList interval.render ++ " to " ++ target.text ++ " as " ++ name))

/-- Sends the records of a round from a place on, `left` of them; gives the number of bytes. -/
def sendFrom (sender : LogSender) (stamp : Stamp) (round count : Nat) :
    (left : Nat) → Except Fault (Nat × LogSender)
  | 0 => .ok (0, sender)
  | left + 1 => do
    let (bytes, sender) ← sendFrom sender stamp round count left
    match sender.send stamp (Bench.entry round left count) with
    | (.ok more, sender) => return (bytes + more, sender)
    | (.error fault, _) => throw (.ofSender fault)

/-- Sends the records of the next round. -/
def round (c : LogClient) (host : Host) (now : Instant) : Except Fault LogClient := do
  let round := c.rounds + 1
  let (bytes, sender) ← sendFrom c.sender (host.stamp now) round c.bench c.bench
  let c := { c with sender, rounds := round, timer := c.timer.tick now }
  return c.note (say .debug ("Round " ++ toString round ++ ": " ++ toString c.bench ++ " records, "
    ++ toString bytes ++ " bytes"))

/-- Sends all rounds that are due, at most `fuel` of them. -/
def catchUp (c : LogClient) (host : Host) (now : Instant) : Nat → Except Fault LogClient
  | 0 => .ok c
  | fuel + 1 =>
    if c.timer.isDue now then do
      let c ← c.round host now
      c.catchUp host now fuel
    else .ok c

end LogClient

end NetSession.Tool
