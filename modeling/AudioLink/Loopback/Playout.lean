import AudioLink.Interface
import AudioLink.Loopback.Packet

/-
From received packets to frames.

Packets wait in an inbox until a frame is read. Then each is accepted or dropped by its number: a
packet is dropped if it is of the same stream as the last accepted one of its slot and not newer,
unless it is so far behind that the stream must have started over. The samples of accepted packets
are queued, and the oldest are dropped when the queue is full. Playback starts once enough samples
are queued, and from then on a frame takes what is there and is filled up with silence.
-/
set_option autoImplicit false

namespace AudioLink

/-- The last accepted packet of a slot. -/
structure StreamPosition where
  /-- Number of its stream. -/
  stream : UInt32
  /-- Its place in the stream. -/
  seq : UInt32
  deriving DecidableEq, Repr

namespace StreamPosition

/-- A packet this far behind the last one starts the stream over. -/
def resyncGap : Int := 64

/-- How far a packet with number `seq` is ahead of this position, going round in 32 bits: at least
-2^31 and less than 2^31. -/
def ahead (last : StreamPosition) (seq : UInt32) : Int := (seq - last.seq).toInt32.toInt

/-- Whether a packet is not newer than this position although it is of the same stream. -/
def isStale (last : StreamPosition) (p : Packet) : Bool :=
  last.stream = p.stream && last.ahead p.seq ≤ 0 && -resyncGap < last.ahead p.seq

end StreamPosition

/-- The receiving side of a peer. -/
structure Playout where
  /-- Samples that have to be queued before playback starts. -/
  prebuffer : Nat
  /-- Most samples that are queued. -/
  capacity : Nat
  /-- Packets that have been received, the oldest first, with the slots that received them. -/
  inbox : List (Slot × Packet) := []
  /-- Samples to be played, the oldest first. -/
  queue : Frame := []
  /-- The last accepted packet of each slot. -/
  positions : Table Slot StreamPosition := .empty
  /-- Whether playback has started. -/
  playing : Bool := false

namespace Playout

/-- Most packets in the inbox. -/
def inboxCapacity : Nat := 1024

/-- Puts a packet into the inbox, unless that is full. -/
def deliver (p : Playout) (slot : Slot) (packet : Packet) : Playout :=
  if p.inbox.length < inboxCapacity then { p with inbox := p.inbox ++ [(slot, packet)] } else p

/-- Whether a packet of a slot is taken. -/
def accepts (p : Playout) (slot : Slot) (packet : Packet) : Bool :=
  !(p.positions.get? slot).any fun last => last.isStale packet

/-- Queues samples and drops the oldest ones that are too many. -/
def enqueue (p : Playout) (samples : Frame) : Playout :=
  -- The length in front of the minus sign may be smaller; nothing is dropped then.
  let all := p.queue ++ samples
  { p with queue := all.drop (all.length - p.capacity) }

/-- Takes or drops a packet of a slot. -/
def accept (p : Playout) (slot : Slot) (packet : Packet) : Playout :=
  if p.accepts slot packet then
    { p with positions := p.positions.insert slot ⟨packet.stream, packet.seq⟩ }.enqueue
      packet.samples
  else p

/-- Takes or drops every packet of the inbox. -/
def drain (p : Playout) : Playout :=
  p.inbox.foldl (fun p x => p.accept x.1 x.2) { p with inbox := [] }

/-- Forgets the position of a slot, after the inbox is emptied. -/
def forget (p : Playout) (slot : Slot) : Playout :=
  -- Packets of the slot that still wait would bring its position back.
  let p := p.drain
  { p with positions := p.positions.erase slot }

/-- Whether playback has started or can start. -/
def isReady (p : Playout) : Bool := p.playing || p.prebuffer ≤ p.queue.length

/-- Plays a frame of `n` samples from the queue. -/
def play (p : Playout) (n : Nat) : Frame × Playout :=
  if p.isReady then
    let taken := p.queue.take n
    (taken ++ List.replicate (n - taken.length) silence,
      { p with queue := p.queue.drop n, playing := true })
  else (List.replicate n silence, p)

/-- Reads a frame of `n` samples. -/
def fill (p : Playout) (n : Nat) : Frame × Playout := p.drain.play n

end Playout
end AudioLink
