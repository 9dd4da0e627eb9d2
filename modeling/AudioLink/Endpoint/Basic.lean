import AudioLink.Endpoint.Protocol

/-
Endpoints: where a peer meets the network.

An endpoint is a protocol, a host, a port and, for signalling protocols, a resource. It is a plain
value and need not make sense: only the operations on URIs say which endpoints do. The port is kept
as a signed number, since it also says "the usual port" and "any free port".
-/
set_option autoImplicit false

namespace AudioLink

/-- Network endpoint of a peer. -/
structure Endpoint where
  /-- The protocol, which has to be set before the endpoint has a URI. -/
  protocol : Option Protocol := none
  /-- A name, an IPv4 address, or an IPv6 address in brackets. -/
  host : String := ""
  /-- The port, or one of the two special values. -/
  port : Int32 := -1
  /-- Path and query, for the protocols that have them. -/
  resource : String := ""
  deriving DecidableEq, Repr

namespace Endpoint

/-- The port value that stands for the usual port of the protocol. -/
def portUnspecified : Int32 := -1

/-- The port value that asks for any free port when binding. -/
def portEphemeral : Int32 := 0

/-- Whether a port value is the number of a port. -/
def isPortNumber (port : Int32) : Bool := 0 ≤ port && port ≤ 65535

/-- The port on the wire: the usual one if none is given. -/
def effectivePort? (e : Endpoint) : Option UInt16 :=
  if e.port = portUnspecified then e.protocol.bind Protocol.defaultPort?
  else if isPortNumber e.port then some (UInt16.ofNat e.port.toInt.toNat)
  else none

/-- The host without the brackets around an IPv6 address. -/
def bareHost (e : Endpoint) : String :=
  match e.host.toList with
  | '[' :: rest =>
    if rest.getLast? = some ']' then String.ofList rest.dropLast else e.host
  | _ => e.host

end Endpoint
end AudioLink
