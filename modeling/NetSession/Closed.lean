/-!
# What is closed

Whoever is handed something to send or to do may be gone. `Closed` says who.
-/

namespace NetSession

/-- Who is gone. -/
inductive Closed where
  /-- The server. -/
  | server
  /-- A connection of the server. -/
  | connection
  /-- The connection of a client. -/
  | client
  /-- A datagram transport. -/
  | transport
  deriving DecidableEq, Repr

/-- The wording. -/
def Closed.message : Closed → String
  | .server => "server is closed"
  | .connection => "connection is closed"
  | .client => "client connection is closed"
  | .transport => "udp transport is closed"

end NetSession
