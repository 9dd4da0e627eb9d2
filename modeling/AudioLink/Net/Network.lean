import AudioLink.Net.Ip
import AudioLink.Table
import AudioLink.Text.Bytes

/-
Datagram sockets of a machine.

What a machine allows depends on its interfaces and routes and on the names that it knows, and is given
as a `Host`. Everything else is the same everywhere: a socket has a local address that it may have to share, a connected
socket has a remote address, and a datagram that is sent waits in the network until whoever owns the
socket at its destination takes it. Datagrams wait in the order in which they were sent and none is
lost; one for which there is no socket is gone.
-/
set_option autoImplicit false

namespace AudioLink

/-! ## The machine -/

/-- What the interfaces and routes of a machine allow, and which names it knows. -/
structure Host where
  /-- The first of the addresses that a name stands for, if there is one. -/
  resolves : String → Option Ip
  /-- Whether a socket can have this local address. -/
  owns : Ip → Bool
  /-- Whether datagrams can be sent to this address. -/
  reaches : Ip → Bool
  /-- Whether a socket with this local address can join this group. -/
  joins : Ip → Ip → Bool
  /-- Whether datagrams for groups can be sent by the interface with this address. -/
  sendsGroupsBy : Ipv4 → Bool

namespace Host

/-- A machine without any interface that is up. No name is known; every IPv4 address can be bound, and
so can the IPv6 addresses that stand for no interface; nothing can be reached, and no group joined. -/
def offline : Host where
  resolves _ := none
  owns
    | .v4 _ => true
    | .v6 ip =>
      ip = .unspecified || ip.mapped?.isSome || (ip.isMulticast && !ip.isLinkMulticast)
  reaches _ := false
  joins _ _ := false
  sendsGroupsBy _ := false

/-- A machine that can talk to itself and to nobody else, and knows itself by one name. -/
def selfContained : Host where
  resolves name := if name = "localhost" then some (.v4 .localhost) else none
  owns
    | .v4 ip => ip.isLoopback || ip = .unspecified || ip.isMulticast
    | .v6 ip => ip = .unspecified || ip = .localhost
  reaches
    | .v4 ip => ip.isLoopback
    | .v6 ip => ip = .localhost
  joins
    | .v4 _, .v4 group => group.isMulticast
    | _, _ => false
  sendsGroupsBy ip := ip = .unspecified || ip.isLoopback

end Host

/-! ## Sockets -/

/-- An address and a port. -/
structure SocketAddress where
  ip : Ip
  port : UInt16
  deriving DecidableEq, Repr

/-- A socket. -/
structure Socket where
  /-- Where it receives. -/
  own : SocketAddress
  /-- Whether it shares its port with sockets that share theirs. -/
  shared : Bool
  /-- Where it sends to, if it is connected. -/
  remote : Option SocketAddress := none
  deriving DecidableEq, Repr

/-- The name of a socket. -/
structure SocketId where
  index : Nat
  deriving DecidableEq, Repr

instance : Ranked SocketId where
  rank := SocketId.index
  rank_inj {a b} h := by cases a; cases b; simpa using h

/-- The sockets of a machine and the datagrams on their way. -/
structure Network where
  sockets : Table SocketId Socket := .empty
  /-- Number of the next socket. -/
  next : Nat := 0
  /-- Datagrams that have not been taken, the oldest first. -/
  waiting : List (SocketId × Bytes) := []

/-- Why a datagram could not be sent. -/
inductive SendFault where
  /-- There is no way to its destination. -/
  | unreachable
  /-- It is too long. -/
  | tooLong
  | notConnected
  deriving DecidableEq, Repr

namespace Network

/-- A machine without sockets. -/
def empty : Network := {}

/-! ### Addresses -/

/-- Whether a socket at the address `a` is in the way of one at `b`, ports apart. An unspecified
IPv4 address stands for every IPv4 address, and an unspecified IPv6 address for every address. -/
def overlap : Ip → Ip → Bool
  | .v4 a, .v4 b => a = b || a = .unspecified || b = .unspecified
  | .v6 a, .v6 b => a = b || a = .unspecified || b = .unspecified
  | .v6 a, .v4 _ | .v4 _, .v6 a => a = .unspecified

/-- Whether a local address is in use and not shared. -/
def isTaken (n : Network) (address : SocketAddress) (shared : Bool) : Bool :=
  n.sockets.values.any fun s =>
    s.own.port = address.port && overlap s.own.ip address.ip && !(shared && s.shared)

/-- First of the ports that are given out freely. -/
def firstFreePort : Nat := 32768

/-- A port that no socket has. -/
def freePort? (n : Network) : Option UInt16 :=
  ((List.range (65536 - firstFreePort)).map fun i => UInt16.ofNat (firstFreePort + i)).find?
    fun port => !n.sockets.values.any fun s => s.own.port = port

/-- The local address that a socket gets: the port is chosen freely if it is zero. -/
def localAddress? (n : Network) (address : SocketAddress) (shared : Bool) :
    Option SocketAddress :=
  if address.port = 0 then n.freePort?.map fun port => { address with port }
  else if n.isTaken address shared then none
  else some address

/-! ### Opening and closing -/

/-- Adds a socket. -/
def add (n : Network) (s : Socket) : SocketId × Network :=
  (⟨n.next⟩, { n with sockets := n.sockets.insert ⟨n.next⟩ s, next := n.next + 1 })

/-- Opens a socket at a local address, and lets it join a group. -/
def bind? (host : Host) (n : Network) (address : SocketAddress) (shared : Bool)
    (group : Option Ip) : Option (SocketId × Network) :=
  if host.owns address.ip && group.all (host.joins address.ip) then
    (n.localAddress? address shared).map fun own => n.add { own, shared }
  else none

/-- Opens a socket that sends to a remote address: by an address of its own if one is given, and
with datagrams for groups leaving by a chosen interface. -/
def connect? (host : Host) (n : Network) (remote : SocketAddress) (outgoing : Option Ip)
    (groupsBy : Option Ip) (shared : Bool) : Option (SocketId × Network) :=
  let source := outgoing.getD remote.ip.unspecifiedLike
  -- Only an IPv4 socket takes the choice; any other passes it over.
  let groupsOk := match remote.ip, groupsBy with
    | .v4 _, some (.v4 ip) => host.sendsGroupsBy ip
    | _, _ => true
  if source.isV4 = remote.ip.isV4 && host.owns source && groupsOk && host.reaches remote.ip then
    (n.localAddress? ⟨source, 0⟩ shared).map fun own => n.add { own, shared, remote }
  else none

/-- Closes a socket. What waited for it is gone. -/
def close (n : Network) (id : SocketId) : Network :=
  { n with
    sockets := n.sockets.erase id
    waiting := n.waiting.filter fun x => x.1 ≠ id }

/-- Closes several sockets. -/
def closeAll (n : Network) (ids : List SocketId) : Network := ids.foldl close n

/-- Where an open socket sends to, if it is connected. -/
def remote? (n : Network) (id : SocketId) : Option SocketAddress :=
  (n.sockets.get? id).bind Socket.remote

/-- The port of an open socket. -/
def port? (n : Network) (id : SocketId) : Option UInt16 :=
  (n.sockets.get? id).map fun s => s.own.port

/-! ### Datagrams -/

/-- Most bytes of a datagram that can be sent. -/
def maxDatagram : Nat := 65507

/-- The socket that receives at an address. Of several that share it, the newest does. -/
def receiver? (n : Network) (address : SocketAddress) : Option SocketId :=
  -- Sockets are numbered as they are opened, so the newest one is the last entry.
  (n.sockets.entries.reverse.find? fun x =>
    x.2.remote.isNone && x.2.own.port = address.port && overlap x.2.own.ip address.ip).map
      (·.1)

/-- Sends a datagram to an address. -/
def sendTo (host : Host) (n : Network) (address : SocketAddress) (bytes : Bytes) :
    Except SendFault Network :=
  if host.reaches address.ip = false then .error .unreachable
  else if maxDatagram < bytes.length then .error .tooLong
  else
    match n.receiver? address with
    | some id => .ok { n with waiting := n.waiting ++ [(id, bytes)] }
    | none => .ok n

/-- Sends a datagram by a connected socket. -/
def send (host : Host) (n : Network) (id : SocketId) (bytes : Bytes) : Except SendFault Network :=
  match n.remote? id with
  | some remote => n.sendTo host remote bytes
  | none => .error .notConnected

/-- Sends a datagram and passes over a failure. -/
def post (host : Host) (n : Network) (id : SocketId) (bytes : Bytes) : Network :=
  match n.send host id bytes with
  | .ok n => n
  | .error _ => n

/-- Takes the datagrams that wait for a socket in the set. -/
def take (n : Network) (wanted : SocketId → Bool) : List (SocketId × Bytes) × Network :=
  (n.waiting.filter fun x => wanted x.1,
    { n with waiting := n.waiting.filter fun x => !wanted x.1 })

end Network
end AudioLink
