import AudioLink.Loopback.State

/-
How samples move between the network and the peers of the loopback engine.

A receiver takes the datagrams that wait for its sockets, in the order in which they were sent; one
that is no packet, or whose samples do not make whole frames, is dropped. A sender sends every packet
on the source interface of each of its slots, and with error correction a second copy of it on each
repair interface.
-/
set_option autoImplicit false

namespace AudioLink.Loopback

/-! ## Receiving -/

/-- Most bytes of a datagram that are looked at. -/
def maxReceived : Nat := 65536

/-- The packet of a datagram, if it holds whole frames of so many channels. -/
def acceptable? (channels : Nat) (bytes : Bytes) : Option Packet :=
  (Packet.decode? (bytes.take maxReceived)).filter fun p => p.samples.length % channels = 0

/-- Puts the packet of a datagram into the inbox. -/
def receive (p : PeerState) (playout : Playout) (datagram : SocketId × Bytes) : Playout :=
  match p.slotOfSocket? datagram.1, acceptable? p.channels datagram.2 with
  | some slot, some packet => playout.deliver slot packet
  | _, _ => playout

/-- Takes the datagrams that wait for the sockets of a receiver. -/
def collect (m : Machine) (p : PeerState) (playout : Playout) : Playout × Machine :=
  let sockets := p.sockets
  -- One inbox serves all slots, so the order of sending is kept across them.
  let (datagrams, network) := m.network.take sockets.contains
  (datagrams.foldl (receive p) playout, { m with network })

/-- Takes the datagrams that wait for the sockets of a peer, if it is a receiver. -/
def collectFlow (m : Machine) (p : PeerState) : Flow × Machine :=
  match p.flow with
  | .sending fec stream packetizer => (.sending fec stream packetizer, m)
  | .receiving playout =>
    let (playout, m) := collect m p playout
    (.receiving playout, m)

/-! ## Sending -/

/-- The interface on which packets of a kind are sent. -/
def interfaceOf : PacketKind → Interface
  | .source => .audioSource
  | .repair => .audioRepair

/-- The sockets of all slots on which packets of a kind are sent. -/
def targets (slots : Table Slot SlotState) (kind : PacketKind) : List SocketId :=
  slots.values.filterMap fun s => s.sender? (interfaceOf kind)

/-- The kinds of packet that a scheme of error correction sends. -/
def kinds (fec : FecEncoding) : List PacketKind :=
  if fec.isEnabled then [.source, .repair] else [.source]

/-- The datagrams by which a piece of a stream is sent, with their sockets. -/
def datagramsOf (slots : Table Slot SlotState) (fec : FecEncoding) (stream : UInt32)
    (piece : Piece) : List (SocketId × Bytes) :=
  (kinds fec).flatMap fun kind =>
    let bytes := Packet.encode ⟨kind, stream, piece.seq, piece.samples⟩
    (targets slots kind).map (·, bytes)

/-- Sends datagrams. -/
def transmit (m : Machine) (datagrams : List (SocketId × Bytes)) : Machine :=
  datagrams.foldl (fun m x => m.post x.1 x.2) m

/-! ## Pacing -/

/-- Waits until the next frame is due, if the engine paces the peer. Only a frame of more than
18446744073 samples of each channel would tell one kind of build from the other here; it is taken as
by one that does not check. -/
def pace (m : Machine) (pacer : Option Pacer) (samples : Nat) : Option Pacer × Machine :=
  match pacer with
  | none => (none, m)
  | some pacer =>
    (some (pacer.advance m.now (UInt64.ofNat samples)), m.sleep (pacer.sleep m.now))

end AudioLink.Loopback
