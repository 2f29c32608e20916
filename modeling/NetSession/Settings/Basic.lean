import NetSession.Duration.Basic

/-!
# Settings

What the tools can be told by a settings file, with the values that hold where the file says
nothing, and the configurations that the parts of the library take from it.
-/

namespace NetSession

/-- How a server runs. -/
structure ServerConfig where
  /-- The name in notices. -/
  name : String := "xserver"
  /-- How many connections are expected. -/
  expectedConnections : Nat := 1024
  /-- How many connections may wait to be accepted. -/
  listenBacklog : Nat := 128
  /-- The size of the extension block of each connection. -/
  connExtraSize : Nat := 0
  /-- The idle time after which a connection is closed; zero for never. -/
  connTimeout : Duration := .ofSeconds 180
  /-- The time between heartbeats; zero for none. -/
  heartbeatInterval : Duration := .ofSeconds 60
  deriving DecidableEq, Repr

/-- How a client runs. -/
structure ClientConfig where
  /-- The name in notices. -/
  name : String := "xclient"
  /-- Whether it connects again after the connection is gone. -/
  autoConnect : Bool := true
  /-- The time between heartbeats and between attempts to connect; zero for none. -/
  heartbeatInterval : Duration := .ofSeconds 60
  deriving DecidableEq, Repr

/-- How a datagram transport runs. -/
structure DatagramConfig where
  /-- The name in notices. -/
  name : String := "xudp"
  /-- The most bytes that are received of a datagram. -/
  recvBufferSize : Nat := 65536
  deriving DecidableEq, Repr

namespace Settings

/-- The settings of the server. -/
structure Server where
  /-- Where to listen. -/
  listen : String := "127.0.0.1:8001"
  /-- How many connections are expected. -/
  expectedConnections : Nat := 1024
  /-- How many connections may wait to be accepted. -/
  listenBacklog : Nat := 128
  /-- The size of the extension block of each connection. -/
  connExtraSize : Nat := 0
  /-- The idle time in seconds after which a connection is closed; zero for never. -/
  connTimeoutSecs : Nat := 180
  /-- The seconds between heartbeats; zero for none. -/
  heartbeatSecs : Nat := 60
  deriving DecidableEq, Repr

/-- The settings of the client. -/
structure Client where
  /-- The server to connect to. -/
  connect : String := "127.0.0.1:8001"
  /-- Whether it connects again after the connection is gone. -/
  autoConnect : Bool := true
  /-- The seconds between heartbeats. -/
  heartbeatSecs : Nat := 60
  deriving DecidableEq, Repr

/-- The settings of datagram transports. -/
structure Udp where
  /-- Where a waiting peer listens. -/
  bind : String := "0.0.0.0:8008"
  /-- The most bytes that are received of a datagram. -/
  recvBufferSize : Nat := 65536
  deriving DecidableEq, Repr

/-- The settings of log clients and servers. -/
structure Log where
  /-- The log server. -/
  target : String := "127.0.0.1:19730"
  /-- The emitter's name. -/
  name : String := "xlog-test"
  /-- The records of a round. -/
  bench : Nat := 1
  /-- The seconds between rounds. -/
  intervalSecs : Nat := 10
  deriving DecidableEq, Repr

end Settings

/-- All settings. -/
structure Settings where
  /-- The settings of the server. -/
  server : Settings.Server := {}
  /-- The settings of the client. -/
  client : Settings.Client := {}
  /-- The settings of datagram transports. -/
  udp : Settings.Udp := {}
  /-- The settings of log clients and servers. -/
  log : Settings.Log := {}
  deriving DecidableEq, Repr

namespace Settings

/-- The configuration of a server. -/
def serverConfig (s : Settings) : ServerConfig :=
  { expectedConnections := s.server.expectedConnections
    listenBacklog := s.server.listenBacklog
    connExtraSize := s.server.connExtraSize
    connTimeout := .ofSeconds s.server.connTimeoutSecs
    heartbeatInterval := .ofSeconds s.server.heartbeatSecs }

/-- The configuration of a client. -/
def clientConfig (s : Settings) : ClientConfig :=
  { autoConnect := s.client.autoConnect
    heartbeatInterval := .ofSeconds s.client.heartbeatSecs }

/-- The configuration of a datagram transport. -/
def datagramConfig (s : Settings) : DatagramConfig :=
  { recvBufferSize := s.udp.recvBufferSize }

end Settings

end NetSession
