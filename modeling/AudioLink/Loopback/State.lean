import AudioLink.Engine.Basic
import AudioLink.Loopback.Packetizer
import AudioLink.Loopback.Playout
import AudioLink.Net.Machine
import AudioLink.Time.Pacer

/-
What the loopback engine keeps: its contexts, its peers, and the slots of each peer.

Handles are numbers from one counter, shared by contexts and peers and starting at one. A peer
belongs to a context, which counts its peers. A slot holds the options and the sockets of its
interfaces side by side, and whether an operation on it has failed.
-/
set_option autoImplicit false

namespace AudioLink.Loopback

/-! ## Slots -/

/-- What an interface is linked to. -/
inductive Link where
  /-- A socket that receives. -/
  | bound (socket : SocketId)
  /-- A socket that sends. -/
  | connected (socket : SocketId)
  deriving DecidableEq, Repr

/-- The socket of a link. -/
def Link.socket : Link → SocketId
  | bound s => s
  | connected s => s

/-- A slot of a peer. -/
structure SlotState where
  /-- Whether an operation on it has failed. -/
  broken : Bool := false
  configs : PerInterface InterfaceConfig := .empty
  links : PerInterface Link := .empty
  deriving DecidableEq, Repr

namespace SlotState

/-- A slot that nothing has been done with. -/
def fresh : SlotState := {}

/-- The slot after an operation on it has failed. -/
def spoil (s : SlotState) : SlotState := { s with broken := true }

/-- The options of an interface. -/
def config (s : SlotState) (interface : Interface) : InterfaceConfig :=
  (s.configs.get? interface).getD {}

/-- The sockets of a slot. -/
def sockets (s : SlotState) : List SocketId := s.links.toList.map fun x => x.2.socket

/-- The socket by which an interface sends, if it does. -/
def sender? (s : SlotState) (interface : Interface) : Option SocketId :=
  match s.broken, s.links.get? interface with
  | false, some (.connected socket) => some socket
  | _, _ => none

end SlotState

/-! ## Peers -/

/-- The part of a peer that moves samples. -/
inductive Flow where
  /-- Cuts frames into packets and sends them. -/
  | sending (fec : FecEncoding) (stream : UInt32) (packetizer : Packetizer)
  /-- Gathers packets and plays them. -/
  | receiving (playout : Playout)

namespace Flow

/-- The flow of a peer after a slot is gone: the position of the slot is forgotten. -/
def forget (slot : Slot) : Flow → Flow
  | sending fec stream packetizer => sending fec stream packetizer
  | receiving playout => receiving (playout.forget slot)

end Flow

/-- A peer of the engine. -/
structure PeerState where
  /-- The context that it is attached to. -/
  context : ContextHandle
  /-- Number of channels of its frames. -/
  channels : Nat
  /-- Its clock, if the engine paces it. -/
  pacer : Option Pacer
  slots : Table Slot SlotState := .empty
  /-- The part that moves samples. -/
  flow : Flow

namespace PeerState

/-- A slot, which is a fresh one if the peer does not have it. -/
def slot (p : PeerState) (slot : Slot) : SlotState := (p.slots.get? slot).getD .fresh

/-- Puts a slot in the place of what was there. -/
def setSlot (p : PeerState) (slot : Slot) (s : SlotState) : PeerState :=
  { p with slots := p.slots.insert slot s }

/-- The sockets of a peer. -/
def sockets (p : PeerState) : List SocketId := p.slots.values.flatMap SlotState.sockets

/-- The slot whose sockets include the given one. -/
def slotOfSocket? (p : PeerState) (socket : SocketId) : Option Slot :=
  (p.slots.entries.find? fun x => x.2.sockets.contains socket).map (·.1)

end PeerState

/-! ## Contexts and the engine -/

/-- A context of the engine. -/
structure ContextState where
  /-- Most bytes of a datagram. -/
  packetSize : Nat
  /-- Packet encodings that have been registered, by their ids. -/
  encodings : Table Int32 MediaEncoding := .empty
  /-- Number of peers. -/
  peers : Nat := 0

/-- The state of the loopback engine. -/
structure State where
  /-- The number that the next handle gets. -/
  nextId : UInt64 := 1
  /-- Open contexts. -/
  contexts : Table ContextHandle ContextState := .empty
  /-- Open peers. -/
  peers : Table PeerHandle PeerState := .empty

instance : Inhabited State := ⟨{}⟩

end AudioLink.Loopback
