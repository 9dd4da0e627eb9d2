import AudioLink.Loopback.State

/-
Sizes that are fixed when a peer is opened.

A span of time is turned into a number of samples by rounding down to whole frames, of which there
is at least one. All sizes have to fit into 64 bits. A sender sends as much audio in a packet as is
configured, unless that does not fit into a datagram of the context; a receiver queues at most one
second of audio more than it gathers before playback.
-/
set_option autoImplicit false

namespace AudioLink.Loopback

/-- One more than the greatest size. -/
def sizeLimit : Nat := UInt64.size

/-- Number of whole frames in a span of time. -/
def framesIn (rate : UInt32) (d : Duration) : Nat := rate.toNat * d.nanos / 1000000000

/-- Number of samples in a span of time, for at least one frame. -/
def samplesFor? (rate : UInt32) (channels : Nat) (d : Duration) : Option Nat :=
  let frames := framesIn rate d
  if frames < sizeLimit ∧ max frames 1 * channels < sizeLimit then
    some (max frames 1 * channels)
  else none

/-- The encoding that a packet encoding stands for on a context: some, none because the packets are
like the frames, or a failure because it is not registered. -/
def packetEncoding? (c : ContextState) : Option PacketEncoding → Option (Option MediaEncoding)
  | some (.registered id) => (c.encodings.get? id).map some
  | some encoding => some encoding.builtin?
  | none => some none

/-- Whether packets of an encoding can carry the samples of frames as they are. -/
def carries (frames : MediaEncoding) (packets : Option MediaEncoding) : Bool :=
  packets.all fun e => e.rate = frames.rate && e.channelCount = frames.channelCount

/-- Number of samples in a packet of a sender. -/
def packetSamples? (c : ContextState) (config : SenderConfig) : Option Nat := do
  let channels := config.frameEncoding.channelCount
  let packets ← packetEncoding? c config.packetEncoding
  -- Whole frames only, so that no frame is parted between two packets.
  let fitting := Packet.maxSamples c.packetSize / channels * channels
  if carries config.frameEncoding packets ∧ fitting ≠ 0 then
    let wanted ← samplesFor? config.frameEncoding.rate channels config.effectivePacketLength
    return min wanted fitting
  else none

/-- A stream that is cut into packets of the given size. -/
def packetizer? (size : Nat) : Option Packetizer :=
  if h : 0 < size then some { size, size_pos := h } else none

/-- One second. -/
def second : Duration := .ofMillis 1000

/-- The receiving side of a receiver. -/
def playout? (config : ReceiverConfig) : Option Playout := do
  let rate := config.frameEncoding.rate
  let channels := config.frameEncoding.channelCount
  let latency := config.effectiveTargetLatency
  if ReceiverConfig.maxTargetLatency.nanos < latency.nanos then none
  else
    let prebuffer ← samplesFor? rate channels latency
    let reserve ← samplesFor? rate channels second
    if reserve + prebuffer < sizeLimit then
      return { prebuffer, capacity := reserve + prebuffer }
    else none

/-- The flow of a peer that is opened; `stream` is the stream of a sender. -/
def flow? (c : ContextState) (stream : UInt32) : PeerConfig → Option Flow
  | .sender config => do
    let size ← packetSamples? c config
    let packetizer ← packetizer? size
    return .sending config.fecEncoding stream packetizer
  | .receiver config => (playout? config).map .receiving

/-- The clock of a peer that the engine paces. -/
def pacer? (config : PeerConfig) : Option Pacer :=
  match config.clockSource with
  | .internal => some (.new config.frameEncoding.rate
      (UInt64.ofNat config.frameEncoding.channelCount))
  | .external => none

end AudioLink.Loopback
