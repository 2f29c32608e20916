import NetSession.Client.System
import NetSession.Datagram.Transport
import NetSession.Server.System

/-!
# What passes between a tool and the outside

A tool needs at most one socket to start (`Socket`). It puts out notices and lines (`Output`), acts
on the connections that it has (`Deed`), and is reached by what happens outside (`Arrival`).
Connections are named by number: those of a server in the order in which their peers came, that of a
client by the attempt that made it.
-/

namespace NetSession.Tool

/-- A socket that a tool needs from the start. -/
inductive Socket where
  /-- A listener, with the number of connections that may wait to be accepted. -/
  | listener (address : Endpoint) (backlog : Nat)
  /-- A datagram socket, with the size of the buffer for what it receives. -/
  | datagrams (address : Endpoint) (bufferSize : Nat)
  deriving DecidableEq

/-- Something that a tool puts out. -/
inductive Output where
  /-- A notice. -/
  | said (notice : Console.Notice)
  /-- A line. -/
  | printed (line : String)
  deriving DecidableEq, Repr

/-- The notice that is put out. -/
def Output.notice? : Output → Option Console.Notice
  | .said notice => some notice
  | .printed _ => none

/-- The line that is put out. -/
def Output.line? : Output → Option String
  | .said _ => none
  | .printed line => some line

/-- Something that a tool does with its connections. -/
inductive Deed where
  /-- It begins an attempt to connect. -/
  | dialed (attempt : Nat)
  /-- It writes bytes. -/
  | wrote (id : Nat) (data : Bytes)
  /-- It closes the socket. -/
  | shut (id : Nat)
  deriving DecidableEq, Repr

/-- What comes to a tool from outside. -/
inductive Arrival where
  /-- Time has passed. -/
  | time (passed : Duration)
  /-- A peer has connected. -/
  | peer (address : Endpoint)
  /-- No connection can be accepted. -/
  | acceptFailure (cause : String)
  /-- A connection was made for an attempt. -/
  | connection (attempt : Nat)
  /-- No connection could be made for an attempt. -/
  | refusal (attempt : Nat) (cause : String)
  /-- Bytes have come on a connection. -/
  | bytes (id : Nat) (data : Bytes)
  /-- The other end of a connection is at its end. -/
  | finish (id : Nat)
  /-- A connection has failed. -/
  | failure (id : Nat) (cause : String)
  /-- A datagram has come. -/
  | datagram (content : Datagram)
  /-- No datagram can be received. -/
  | receiveFailure (cause : String)
  /-- The datagram that was to be written has met its fate. -/
  | fate (outcome : Datagram.Fate)
  deriving DecidableEq

namespace Arrival

/-- What an arrival is to a server. -/
def toServer? : Arrival → Option NetSession.Server.Move
  | .time passed => some (.pass passed)
  | .peer address => some (.arrive (.peer address))
  | .acceptFailure cause => some (.arrive (.failure cause))
  | .bytes id data => some (.receive id data)
  | .finish id => some (.finish id)
  | .failure id cause => some (.fail id cause)
  | .connection _ | .refusal .. | .datagram _ | .receiveFailure _ | .fate _ => none

/-- What an arrival is to a client. -/
def toClient? : Arrival → Option NetSession.Client.Move
  | .time passed => some (.pass passed)
  | .connection attempt => some (.connect attempt)
  | .refusal attempt cause => some (.refuse attempt cause)
  | .bytes id data => some (.receive id data)
  | .finish id => some (.finish id)
  | .failure id cause => some (.fail id cause)
  | .peer _ | .acceptFailure _ | .datagram _ | .receiveFailure _ | .fate _ => none

/-- What an arrival is to a datagram transport. -/
def toTransport? : Arrival → Option Transport.Move
  | .time passed => some (.pass passed)
  | .datagram d => some (.receive d)
  | .receiveFailure cause => some (.fail cause)
  | .fate f => some (.write f)
  | .peer _ | .acceptFailure _ | .connection _ | .refusal .. | .bytes .. | .finish _
  | .failure .. => none

end Arrival

end NetSession.Tool
