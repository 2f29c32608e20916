import NetSession.Record.Emitter
import NetSession.Tool.Traffic

/-!
# Hosts

What a tool is given by the machine that it runs on: its process, the time, and what becomes of what
it does with sockets. `Host.isolated` is the machine that has no network: sockets can be bound to
its own addresses, and nothing can be reached.
-/

namespace NetSession.Tool

/-- A machine to run a tool on. -/
structure Host where
  /-- The number of the process. -/
  pid : Int32
  /-- The time and thread that records are stamped with. -/
  stamp : Instant → Stamp
  /-- Starts a listener at an address, and gives the one that it has. -/
  listen : Endpoint → Except String Endpoint
  /-- Binds a datagram socket to an address, and gives the one that it has. -/
  bind : Endpoint → Except String Endpoint
  /-- How an attempt to connect to an address ends, if that is known at once. -/
  dial : Endpoint → Option (Except String Unit)
  /-- What becomes of a datagram that is written, if that is known at once. -/
  carry : Datagram → Option Datagram.Fate

namespace Host

/-- Whether a machine with IPv4 alone can bind a socket to an address: a loopback address, or the
one that stands for every interface. -/
def isOwn (address : Endpoint) : Bool :=
  match address.ip with
  | .v4 ip => ip = .unspecified || ip.a = 127
  | .v6 _ => false

/-- Binds a socket to an address of the machine, unless its port is taken; port 0 stands for a free
one. -/
def bindOwn (taken : List UInt16) (free : UInt16) (cause : String) (address : Endpoint) :
    Except String Endpoint :=
  if !isOwn address || address.port ∈ taken then .error cause
  else if address.port = 0 then .ok { address with port := free }
  else .ok address

/-- The machine without a network, where all that fails does so for one cause. Some ports are taken
by listeners, and some by datagram sockets. -/
def isolated (pid : Int32) (stamp : Stamp) (cause : String) (listening bound : List UInt16) :
    Host where
  pid
  stamp _ := stamp
  listen := bindOwn listening 43000 cause
  bind := bindOwn bound 43000 cause
  dial _ := some (.error cause)
  carry _ := some (.refused cause)

end Host

end NetSession.Tool
