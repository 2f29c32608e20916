import NetSession.Endpoint.Basic
import Std.Net.Addr

/-!
# Addresses of sockets

Endpoints as the operating system's sockets take them. `ofSocket (toSocket e) = e` for every
endpoint.
-/

namespace NetSession.Endpoint

open Std.Net

/-- An endpoint as the address of a socket. -/
def toSocket (endpoint : Endpoint) : SocketAddress :=
  match endpoint.ip with
  | .v4 ip => .v4 ⟨.ofParts ip.a ip.b ip.c ip.d, endpoint.port⟩
  | .v6 ip => .v6 ⟨⟨⟨ip.groups.toArray, by simp [ip.length_groups]⟩⟩, endpoint.port⟩

/-- The address of a socket as an endpoint. -/
def ofSocket : SocketAddress → Endpoint
  | .v4 ⟨⟨octets⟩, port⟩ => ⟨.v4 ⟨octets[0], octets[1], octets[2], octets[3]⟩, port⟩
  | .v6 ⟨⟨segments⟩, port⟩ => ⟨.v6 ⟨segments.toList, by simp⟩, port⟩

/-- An endpoint is found again in its socket's address. -/
theorem ofSocket_toSocket (endpoint : Endpoint) : ofSocket endpoint.toSocket = endpoint := by
  obtain ⟨ip | ip, port⟩ := endpoint
  · rfl
  · simp [toSocket, ofSocket]

end NetSession.Endpoint
