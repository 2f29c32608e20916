import NetSession.Endpoint.Ipv6
import NetSession.Text.Blank
import NetSession.Text.Quoted

/-!
# Endpoints

An address with a port: where a socket is bound or connected. `Endpoint.resolve` reads the address
alone, `Endpoint.read` the form `address:port`, and `Endpoint.render` writes that form, with an IPv6
address in brackets. No name is ever looked up.
-/

namespace NetSession

/-- An address of either family. -/
inductive Ip where
  /-- An IPv4 address. -/
  | v4 (ip : Ipv4)
  /-- An IPv6 address. -/
  | v6 (ip : Ipv6)
  deriving DecidableEq

/-- The written form of an address. -/
def Ip.render : Ip → List Char
  | .v4 ip => ip.render
  | .v6 ip => ip.render

/-- A bind or connect target. -/
structure Endpoint where
  /-- The address. -/
  ip : Ip
  /-- The port. -/
  port : UInt16
  deriving DecidableEq

namespace Endpoint

/-- Any IPv4 interface, on a port that the system chooses. -/
def unspecifiedV4 : Endpoint := ⟨.v4 Ipv4.unspecified, 0⟩

/-- Any IPv6 interface, on a port that the system chooses. -/
def unspecifiedV6 : Endpoint := ⟨.v6 Ipv6.unspecified, 0⟩

/-- Whether the address is an IPv6 one. -/
def isV6 (endpoint : Endpoint) : Bool :=
  match endpoint.ip with
  | .v4 _ => false
  | .v6 _ => true

/-- The written form, with an IPv6 address in brackets. -/
def render (endpoint : Endpoint) : List Char :=
  let port := ':' :: Decimal.render endpoint.port.toNat
  match endpoint.ip with
  | .v4 ip => ip.render ++ port
  | .v6 ip => '[' :: ip.render ++ ']' :: port

/-- The written form as a string. -/
def text (endpoint : Endpoint) : String := String.ofList endpoint.render

/-- Reads an address. A text with a colon is an IPv6 address, with any number of brackets around it;
any other is a dotted quad. Blanks around it do not count. -/
def readIp (text : List Char) : Option Ip :=
  let text := Text.trim text
  if ':' ∈ text then
    (Ipv6.read (Text.dropTail (· == ']') (text.dropWhile (· == '[')))).map .v6
  else (Ipv4.read text).map .v4

/-- Why a text is no endpoint. -/
inductive Fault where
  /-- The address part is none; the text is kept as it was given. -/
  | unresolved (address : String) (port : UInt16)
  /-- No colon separates a port. -/
  | noPort (text : String)
  /-- The text after the last colon is no port. -/
  | badPort (text : String) (cause : Decimal.Fault)
  deriving DecidableEq

/-- The wording of a fault, followed by that of its cause. -/
def Fault.chain : Fault → List String
  | .unresolved address port =>
    ["cannot resolve address " ++ Text.quoted address ++ " (port " ++ toString port.toNat ++ ")"]
  | .noPort text => ["expected ip:port, got " ++ Text.quoted text]
  | .badPort text cause => ["bad port in " ++ Text.quoted text, cause.message]

/-- The wording of a fault, with its cause after a colon. -/
def Fault.message (fault : Fault) : String := ": ".intercalate fault.chain

/-- The endpoint of an address text and a port. -/
def resolve (address : String) (port : UInt16) : Except Fault Endpoint :=
  match readIp address.toList with
  | some ip => .ok ⟨ip, port⟩
  | none => .error (.unresolved address port)

/-- The parts before and after the last colon of a text. -/
def splitLastColon (text : List Char) : Option (List Char × List Char) :=
  let tail := (text.reverse.takeWhile (· != ':')).reverse
  if ':' ∈ text then some (text.take (text.length - tail.length - 1), tail) else none

/-- Reads `address:port`, where the last colon separates the port. -/
def read (text : String) : Except Fault Endpoint :=
  match splitLastColon (Text.trim text.toList) with
  | none => .error (.noPort text)
  | some (address, port) =>
    match Decimal.read 65536 port with
    | .error cause => .error (.badPort text cause)
    | .ok port => resolve (String.ofList address) port.toUInt16

end Endpoint

end NetSession
