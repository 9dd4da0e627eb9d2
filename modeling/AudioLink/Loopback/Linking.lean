import AudioLink.Loopback.State

/-
How an interface is bound or connected.

First the request is checked against the peer: the endpoint has a protocol, the interface is free
and supports it, and the engine provides the interface at all. Then the addresses are read, and a host
that is none is looked up as a name; only then is a socket opened. Whatever goes wrong with a name or
with a socket is one and the same refusal.
-/
set_option autoImplicit false

namespace AudioLink.Loopback

/-! ## Addresses -/

/-- Reads an address of the options of an interface; the empty text is none. Brackets around it are
passed over. -/
def address? (text : String) : Answer (Option Ip) :=
  let cs := text.toList
  if cs = [] then .ok none
  else
    let inner := ((cs.dropWhile (· = '[')).reverse.dropWhile (· = ']')).reverse
    match Ip.ofText? inner with
    | some ip => .ok (some ip)
    | none => .error .invalidArgument

/-- Whether the addresses of the options of an interface can be read. -/
def hasAddresses (c : InterfaceConfig) : Bool :=
  (address? c.outgoingAddress).isOk && (address? c.multicastGroup).isOk

/-- The address and port of an endpoint, whose host is the text of an address or a name that the
machine looks up. Port zero is refused unless any free port will do. -/
def resolve (host : Host) (endpoint : Endpoint) (allowAnyPort : Bool) : Answer SocketAddress :=
  match endpoint.effectivePort? with
  | none => .error .invalidArgument
  | some port =>
    if port = 0 ∧ allowAnyPort = false then .error .invalidArgument
    else
      -- The text of an address is never looked up.
      match Ip.ofText? endpoint.bareHost.toList <|> host.resolves endpoint.bareHost with
      | some ip => .ok { ip, port }
      | none => .error .addressUnavailable

/-! ## Checks -/

/-- Checks that the interface of a slot can be linked to an endpoint, and yields the protocol. -/
def checkLink (s : SlotState) (interface : Interface) (endpoint : Endpoint) : Answer Protocol :=
  match endpoint.protocol with
  | none => .error .invalidArgument
  | some protocol =>
    if (s.links.get? interface).isSome ∨ interface.supports protocol = false then
      .error .invalidArgument
    -- No signalling protocol is spoken here, so the interface is known but not provided.
    else if interface = .consolidated then .error .unsupported
    else .ok protocol

/-- Whether the scheme of error correction has this protocol on this interface. -/
def pairs (fec : FecEncoding) (interface : Interface) (protocol : Protocol) : Bool :=
  match interface with
  | .consolidated => false
  | .audioSource => protocol = fec.sourceProtocol
  | .audioRepair => fec.repairProtocol? = some protocol
  | .audioControl => true

/-! ## Sockets -/

/-- Opens a socket, or refuses the address. -/
def opened (m : Machine) (socket : Option (SocketId × Network)) : Answer (SocketId × Machine) :=
  match socket with
  | some (id, network) => .ok (id, { m with network })
  | none => .error .addressUnavailable

/-- Binds an interface: the endpoint with the port that it got, and its socket. -/
def bindLink (m : Machine) (s : SlotState) (interface : Interface) (endpoint : Endpoint) :
    Answer ((Endpoint × SocketId) × Machine) := do
  let _ ← checkLink s interface endpoint
  let config := s.config interface
  let address ← resolve m.host endpoint true
  let group ← address? config.multicastGroup
  let (id, m) ← opened m (m.network.bind? m.host address config.reuseAddress group)
  match m.network.port? id with
  | some port => return (({ endpoint with port := Int32.ofNat port.toNat }, id), m)
  | none => throw .addressUnavailable

/-- Connects an interface of a sender: its socket. -/
def connectLink (m : Machine) (fec : FecEncoding) (s : SlotState) (interface : Interface)
    (endpoint : Endpoint) : Answer (SocketId × Machine) := do
  let protocol ← checkLink s interface endpoint
  if pairs fec interface protocol = false then throw .invalidArgument
  let config := s.config interface
  let remote ← resolve m.host endpoint false
  let outgoing ← address? config.outgoingAddress
  let groupsBy ← address? config.multicastGroup
  opened m (m.network.connect? m.host remote outgoing groupsBy config.reuseAddress)

end AudioLink.Loopback
