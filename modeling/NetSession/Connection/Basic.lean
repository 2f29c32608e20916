import NetSession.Clock
import NetSession.Closed
import NetSession.Endpoint.Basic
import NetSession.Stream.Link

/-!
# Connections

One accepted connection, as everyone sees it who holds a reference to it: the server's table, the
task that moves its bytes, and whoever kept one. All of them can send on it, ask its server to close
it, and read or write its extension block.
-/

namespace NetSession

/-- The number that a server gives to a connection. -/
abbrev ConnId := Nat

/-- One accepted connection. -/
structure Connection where
  /-- Its number. -/
  id : ConnId
  /-- The address at the other end. -/
  peer : Endpoint
  /-- When it was last read from, or accepted. -/
  lastActivity : Instant
  /-- The extension block, whose size never changes. -/
  extra : Bytes
  /-- Whether it has begun to close. -/
  closing : Bool := false
  /-- What is shared with the task that moves its bytes. -/
  link : Link := {}
  /-- Whether its server still takes requests to close it. -/
  served : Bool := true
  deriving DecidableEq

namespace Connection

/-- A connection that was just accepted, with an extension block of zeros. -/
def new (id : ConnId) (peer : Endpoint) (extraSize : Nat) (now : Instant) : Connection :=
  { id, peer, lastActivity := now, extra := List.replicate extraSize 0 }

/-- Queues a payload. It fails once the connection has begun to close, and once nobody will write
it. -/
def send (c : Connection) (data : Bytes) : Except Closed Connection :=
  if c.closing then .error .connection
  else
    match c.link.push? data with
    | some link => .ok { c with link := link }
    | none => .error .connection

/-- Begins to close; says whether it had not begun before. -/
def beginClose (c : Connection) : Bool × Connection := (!c.closing, { c with closing := true })

/-- Gives its task the signal to stop. -/
def signalStop (c : Connection) : Connection := { c with link := c.link.signal }

/-- Sets the time of the last read. -/
def stamp (c : Connection) (t : Instant) : Connection := { c with lastActivity := t }

/-- Writes over the start of the extension block, as far as it reaches. -/
def writeExtra (c : Connection) (data : Bytes) : Connection :=
  { c with extra := data.take c.extra.length ++ c.extra.drop data.length }

/-- How long it has been silent. -/
def idle (c : Connection) (now : Instant) : Duration := now.since c.lastActivity

end Connection

end NetSession
