import NetSession.Console.Filter
import NetSession.Calendar
import NetSession.Live.Address
import NetSession.Tool.Program
import Std.Async.Signal
import Std.Async.TCP
import Std.Async.Timer
import Std.Async.UDP
import Std.Sync.Channel
import Std.Time.Zoned

/-!
# Running a tool on the machine

A tool lives in one loop. Listeners, sockets and the interrupt signal post what happens to a
mailbox. Each turn of the loop waits until there is mail or the tool has something to do by itself,
hands it to the tool, and then puts out what the tool says and does to its sockets what the tool did
to its connections. Nothing is decided here.
-/

namespace NetSession.Live

open Std.Async

/-- The most steps that a tool takes in one turn. -/
def fuel : Nat := 1000000000

/-- Something that is posted to the loop. -/
inductive Mail where
  /-- The program is interrupted. -/
  | interrupt
  /-- A connection was accepted. -/
  | accepted (socket : TCP.Socket.Client) (peer : Endpoint)
  /-- A connection was made for an attempt. -/
  | dialed (attempt : Nat) (socket : TCP.Socket.Client)
  /-- Something else arrived. -/
  | arrival (content : Tool.Arrival)

instance : Inhabited Mail := ⟨.interrupt⟩

/-- The mailbox of the loop. -/
abbrev Mailbox := Std.Channel Mail

/-- Posts something. -/
def Mailbox.post (box : Mailbox) (mail : Mail) : BaseIO Unit := discard (box.send mail)

/-- Starts something that goes on beside the loop. -/
def beside (action : Async Unit) : IO Unit := discard action.toIO

/-- A span of whole milliseconds as timers take it. -/
def pause (millis : Nat) : Std.Time.Millisecond.Offset := .ofNat millis

/-- Posts the connections that a listener accepts. -/
def acceptAll (box : Mailbox) (listener : TCP.Socket.Server) : Async Unit := do
  repeat
    try
      let socket ← listener.accept
      box.post (.accepted socket (.ofSocket (← socket.getPeerName)))
    catch e =>
      box.post (.arrival (.acceptFailure (toString e)))
      sleep (pause 50)

/-- Posts what comes on a connection, up to its end. -/
def readAll (box : Mailbox) (id : Nat) (socket : TCP.Socket.Client) : Async Unit := do
  try
    repeat
      match ← socket.recv? Stream.readSize.toUInt64 with
      | some data => box.post (.arrival (.bytes id data.toList))
      | none =>
        box.post (.arrival (.finish id))
        break
  catch e => box.post (.arrival (.failure id (toString e)))

/-- Posts the datagrams that come to a socket. -/
def receiveAll (box : Mailbox) (socket : UDP.Socket) (size : Nat) : Async Unit := do
  repeat
    try
      match ← socket.recv size.toUInt64 with
      | (data, some sender) => box.post (.arrival (.datagram ⟨.ofSocket sender, data.toList⟩))
      | (_, none) => pure ()
    catch e =>
      box.post (.arrival (.receiveFailure (toString e)))
      sleep (pause 50)

/-- Posts how an attempt to connect ends. -/
def dial (box : Mailbox) (attempt : Nat) (target : Endpoint) : Async Unit := do
  try
    let socket ← TCP.Socket.Client.mk
    socket.connect target.toSocket
    box.post (.dialed attempt socket)
  catch e => box.post (.arrival (.refusal attempt (toString e)))

/-- Posts interrupts. -/
def watchInterrupts (box : Mailbox) : Async Unit := do
  let waiter ← Signal.Waiter.mk .sigint false
  discard <| await (← waiter.wait)
  box.post .interrupt

/-- Opens the socket that a tool needs to start; gives the address that it has, and the socket if it
is one for datagrams. -/
def openSocket (box : Mailbox) : Tool.Socket → IO (Endpoint × Option UDP.Socket)
  | .listener address backlog => do
    let listener ← TCP.Socket.Server.mk
    listener.bind address.toSocket
    listener.listen backlog.toUInt32
    beside (acceptAll box listener)
    return (.ofSocket (← listener.getSockName), none)
  | .datagrams address size => do
    let socket ← UDP.Socket.mk
    socket.bind address.toSocket
    beside (receiveAll box socket size)
    return (.ofSocket (← socket.getSockName), some socket)

/-- How the program shows what is said. -/
structure Screen where
  /-- How notices are shown. -/
  style : Console.Style
  /-- Which notices are shown. -/
  filter : Console.Filter

/-- The local time, to the millisecond. -/
def localTime : IO String := do
  let t ← Std.Time.PlainDateTime.now
  let m : Calendar.Moment := ⟨t.date.year.toInt, t.date.month.toNat, t.date.day.toNat,
    t.time.hour.toNat, t.time.minute.toNat, t.time.second.toNat⟩
  return String.ofList (m.render ++ '.' :: Decimal.padded 3 (t.time.nanosecond.toNat / 1000000))

/-- Shows a notice. -/
def Screen.say (style : Console.Style) (notice : Console.Notice) : IO Unit := do
  IO.print (style.line (← localTime) notice)

/-- Puts something out. -/
def Screen.put (screen : Screen) : Tool.Output → IO Unit
  | .said notice => if screen.filter.shows notice then Screen.say screen.style notice else pure ()
  | .printed line => IO.println line

/-- A tool with its sockets. -/
structure Loop where
  /-- What is shown. -/
  screen : Screen
  /-- What the tool is given by the machine. -/
  host : Tool.Host
  /-- Where what happens is posted. -/
  box : Mailbox
  /-- The socket for datagrams. -/
  datagrams : Option UDP.Socket
  /-- The tool. -/
  run : Tool.Run
  /-- The reading of the clock at the start. -/
  started : Nat
  /-- The moment up to which the tool has seen time pass. -/
  seen : Instant := .zero
  /-- The sockets of connections, by number. -/
  sockets : Std.TreeMap Nat TCP.Socket.Client := ∅
  /-- How many connections were accepted. -/
  accepted : Nat := 0

namespace Loop

/-- Does to the sockets what the tool did. -/
def perform (l : Loop) : Tool.Deed → IO Unit
  | .dialed attempt =>
    match l.run.program with
    | .client y => beside (dial l.box attempt y.client.target)
    | _ => pure ()
  | .wrote id data =>
    match l.sockets[id]? with
    | none => pure ()
    | some socket => beside do
      try
        socket.send (ByteArray.mk data.toArray)
      catch e => l.box.post (.arrival (.failure id (toString e)))
  | .shut id =>
    match l.sockets[id]? with
    | none => pure ()
    | some socket => beside do
      try
        socket.shutdown
      catch _ => pure ()
      (socket.recvSelector 1).unregisterFn

/-- Writes a datagram. -/
def carry (l : Loop) (datagram : Datagram) : IO Datagram.Fate :=
  match l.datagrams with
  | none => return .refused Closed.transport.message
  | some socket => do
    try
      (socket.send (ByteArray.mk datagram.data.toArray) (some datagram.peer.toSocket)).block
      return .taken datagram.data.length
    catch e => return .refused (toString e)

/-- Puts out what the tool says, and does what it did, until there is nothing left. -/
def flush (l : Loop) : IO Loop := do
  let mut l := l
  repeat
    for output in l.run.program.outputs do
      l.screen.put output
    for deed in l.run.program.deeds do
      l.perform deed
    l := { l with run := l.run.forget }
    match l.run.program.datagram? with
    | none => break
    | some datagram => l := { l with run := l.run.arrive l.host (.fate (← l.carry datagram)) fuel }
  (← IO.getStdout).flush
  return l

/-- The time that the tool can wait, in milliseconds, unless it has nothing to do by itself. -/
def patience (l : Loop) : Option Nat :=
  l.run.program.due?.map fun due => due.ceilMillis - l.seen.millis

/-- Waits for mail, as long as the tool can wait. -/
def wait (l : Loop) : IO (Option Mail) := do
  let mail := Selectable.case l.box.recvSelector fun mail => return some mail
  match l.patience with
  | none => (Selectable.one #[mail]).block
  | some millis =>
    let nap ← (Selector.sleep (pause millis)).block
    (Selectable.one #[mail, .case nap fun _ => return none]).block

/-- The loop once the tool has seen the time that has passed. -/
def catchUp (l : Loop) : IO Loop := do
  let now : Instant := ⟨(← IO.monoNanosNow) - l.started⟩
  return { l with run := l.run.arrive l.host (.time (now.since l.seen)) fuel, seen := now }

/-- The loop once the tool has something that arrived. -/
def arrive (l : Loop) (arrival : Tool.Arrival) : Loop :=
  { l with run := l.run.arrive l.host arrival fuel }

/-- Takes in mail. -/
def take (l : Loop) : Mail → IO Loop
  | .interrupt => return { l with run := l.run.interrupt l.host fuel }
  | .accepted socket peer => do
    let id := l.accepted + 1
    beside (readAll l.box id socket)
    let l := { l with sockets := l.sockets.insert id socket, accepted := id }
    return l.arrive (.peer peer)
  | .dialed attempt socket => do
    beside (readAll l.box attempt socket)
    let l := { l with sockets := l.sockets.insert attempt socket }
    return l.arrive (.connection attempt)
  | .arrival content => return l.arrive content

/-- Runs the tool to its end. -/
def toEnd (l : Loop) : IO (Except Tool.Fault Unit) := do
  let mut l ← l.flush
  repeat
    match l.run.ended with
    | some outcome => return outcome
    | none =>
      let mail ← l.wait
      l ← (← l.catchUp).flush
      match mail with
      | none => pure ()
      | some mail => l ← (← l.take mail).flush
  return .ok ()

end Loop

/-- Runs the tool that a command line asks for. -/
def run (screen : Screen) (pid : Int32) (settings : Settings) (task : CommandLine.Task) :
    IO (Except Tool.Fault Unit) := do
  match Tool.Program.socket? settings task with
  | .error fault => return .error fault
  | .ok needed =>
    let box ← Std.Channel.new
    beside (watchInterrupts box)
    let opened : Except String (Option (Endpoint × Option UDP.Socket)) ←
      try
        .ok <$> needed.mapM (openSocket box)
      catch e => pure (.error (toString e))
    let bound (address : Endpoint) : Except String Endpoint :=
      opened.map fun socket => (socket.map (·.1)).getD address
    let started ← IO.monoNanosNow
    let startTime := (← Std.Time.Timestamp.now).toNanosecondsSinceUnixEpoch.toInt
    let host : Tool.Host :=
      { pid, listen := bound, bind := bound, dial := fun _ => none, carry := fun _ => none
        stamp := fun now => ⟨Int32.ofInt ((startTime + now.nanos) / 1000000000), 1⟩ }
    match Tool.Run.start host settings task fuel with
    | .error fault => return .error fault
    | .ok run =>
      let datagrams := (opened.toOption.bind id).bind (·.2)
      Loop.toEnd { screen, host, box, datagrams, run, started }

end NetSession.Live
