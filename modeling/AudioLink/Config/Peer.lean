import AudioLink.Config.Encoding
import AudioLink.Time.Duration

/-
Configurations of contexts and peers.

Everything has a default, and zero stands for "let the engine choose"; only the frame encoding of a
peer has to be set before the peer can be opened. Spans of time are read and written in whole
milliseconds.
-/
set_option autoImplicit false

namespace AudioLink

/-! ## Contexts -/

/-- Configuration of a context. -/
structure ContextConfig where
  /-- Most bytes of a datagram. -/
  maxPacketSize : UInt32 := 0
  /-- Most bytes of a frame in between. -/
  maxFrameSize : UInt32 := 0
  deriving DecidableEq, Repr, Inhabited

namespace ContextConfig

/-- The size of a datagram if none is configured. -/
def defaultPacketSize : Nat := 2048

/-- Smallest size of a datagram that can be configured. -/
def minPacketSize : UInt32 := 128

/-- Smallest size of a frame that can be configured. -/
def minFrameSize : UInt32 := 64

/-- Whether both sizes are left to the engine or large enough. -/
def isValid (c : ContextConfig) : Bool :=
  (c.maxPacketSize == 0 || minPacketSize ≤ c.maxPacketSize)
    && (c.maxFrameSize == 0 || minFrameSize ≤ c.maxFrameSize)

/-- Most bytes of a datagram of the context. -/
def packetSize (c : ContextConfig) : Nat :=
  if c.maxPacketSize = 0 then defaultPacketSize else c.maxPacketSize.toNat

instance : Form ContextConfig where
  read? d v := do
    let given ← Form.given? d ["max_packet_size", "max_frame_size"] v
    let maxPacketSize ← Form.field? d given "max_packet_size" 0
    let maxFrameSize ← Form.field? d given "max_frame_size" 0
    return { maxPacketSize, maxFrameSize }
  write c := .table [
    Form.entry "max_packet_size" c.maxPacketSize,
    Form.entry "max_frame_size" c.maxFrameSize]

end ContextConfig

/-! ## Choices of a peer -/

/-- Who paces the frames. -/
inductive ClockSource where
  /-- The caller does; reading and writing never wait. -/
  | external
  /-- The engine does; reading and writing wait until the next frame is due. -/
  | internal
  deriving DecidableEq, Repr

instance : Inhabited ClockSource := ⟨.external⟩

instance : Labelled ClockSource where
  all := [.external, .internal]
  label
    | .external => "external"
    | .internal => "internal"
  find?_label a := by cases a <;> decide

/-- Implementation of the resampler. -/
inductive ResamplerBackend where
  | default
  | builtin
  | speex
  | speexDec
  deriving DecidableEq, Repr

instance : Inhabited ResamplerBackend := ⟨.default⟩

instance : Labelled ResamplerBackend where
  all := [.default, .builtin, .speex, .speexDec]
  label
    | .default => "default"
    | .builtin => "builtin"
    | .speex => "speex"
    | .speexDec => "speex_dec"
  find?_label a := by cases a <;> decide

/-- Quality of the resampler. -/
inductive ResamplerProfile where
  | default
  | high
  | medium
  | low
  deriving DecidableEq, Repr

instance : Inhabited ResamplerProfile := ⟨.default⟩

instance : Labelled ResamplerProfile where
  all := [.default, .high, .medium, .low]
  label
    | .default => "default"
    | .high => "high"
    | .medium => "medium"
    | .low => "low"
  find?_label a := by cases a <;> decide

/-- What latency is measured by. -/
inductive LatencyTunerBackend where
  | default
  /-- The length of the queue of incoming packets. -/
  | niq
  /-- Reports of the latency from end to end. -/
  | e2e
  deriving DecidableEq, Repr

instance : Inhabited LatencyTunerBackend := ⟨.default⟩

instance : Labelled LatencyTunerBackend where
  all := [.default, .niq, .e2e]
  label
    | .default => "default"
    | .niq => "niq"
    | .e2e => "e2e"
  find?_label a := by cases a <;> decide

/-- How latency is corrected. -/
inductive LatencyTunerProfile where
  | default
  | intact
  | responsive
  | gradual
  deriving DecidableEq, Repr

instance : Inhabited LatencyTunerProfile := ⟨.default⟩

instance : Labelled LatencyTunerProfile where
  all := [.default, .intact, .responsive, .gradual]
  label
    | .default => "default"
    | .intact => "intact"
    | .responsive => "responsive"
    | .gradual => "gradual"
  find?_label a := by cases a <;> decide

/-! ## Peers -/

/-- A span of time stands as its number of milliseconds. -/
instance : Form Duration where
  read? d v := (Form.read? d v).map Duration.ofMillis
  write t := Form.write t.millis

/-- Configuration of a sender. -/
structure SenderConfig where
  /-- Encoding of the frames that the caller writes. -/
  frameEncoding : MediaEncoding := {}
  /-- Encoding of the packets; that of the frames if it is not given. -/
  packetEncoding : Option PacketEncoding := none
  /-- How much audio goes into a packet. -/
  packetLength : Duration := .zero
  /-- Whether packets are shuffled before they are sent. -/
  packetInterleaving : Bool := false
  /-- Scheme of error correction. -/
  fecEncoding : FecEncoding := .default
  /-- Source packets of a block of error correction. -/
  fecBlockSourcePackets : UInt32 := 0
  /-- Repair packets of a block of error correction. -/
  fecBlockRepairPackets : UInt32 := 0
  clockSource : ClockSource := .external
  latencyTunerBackend : LatencyTunerBackend := .default
  latencyTunerProfile : LatencyTunerProfile := .default
  resamplerBackend : ResamplerBackend := .default
  resamplerProfile : ResamplerProfile := .default
  /-- Latency that is aimed at. -/
  targetLatency : Duration := .zero
  /-- How far latency may be off. -/
  latencyTolerance : Duration := .zero
  deriving DecidableEq, Inhabited

namespace SenderConfig

/-- How much audio goes into a packet if it is not configured. -/
def defaultPacketLength : Duration := .ofMillis 5

/-- How much audio goes into a packet. -/
def effectivePacketLength (c : SenderConfig) : Duration :=
  if c.packetLength = .zero then defaultPacketLength else c.packetLength

/-- The names of the fields, in the order in which they are written. -/
def fieldNames : List String :=
  ["frame_encoding", "packet_encoding", "packet_length_ms", "packet_interleaving",
    "fec_encoding", "fec_block_source_packets", "fec_block_repair_packets", "clock_source",
    "latency_tuner_backend", "latency_tuner_profile", "resampler_backend", "resampler_profile",
    "target_latency_ms", "latency_tolerance_ms"]

instance : Form SenderConfig where
  read? d v := do
    let given ← Form.given? d fieldNames v
    let frameEncoding ← Form.field? d given "frame_encoding" {}
    let packetEncoding ← Form.field? d given "packet_encoding" none
    let packetLength ← Form.field? d given "packet_length_ms" .zero
    let packetInterleaving ← Form.field? d given "packet_interleaving" false
    let fecEncoding ← Form.field? d given "fec_encoding" .default
    let fecBlockSourcePackets ← Form.field? d given "fec_block_source_packets" 0
    let fecBlockRepairPackets ← Form.field? d given "fec_block_repair_packets" 0
    let clockSource ← Form.field? d given "clock_source" .external
    let latencyTunerBackend ← Form.field? d given "latency_tuner_backend" .default
    let latencyTunerProfile ← Form.field? d given "latency_tuner_profile" .default
    let resamplerBackend ← Form.field? d given "resampler_backend" .default
    let resamplerProfile ← Form.field? d given "resampler_profile" .default
    let targetLatency ← Form.field? d given "target_latency_ms" .zero
    let latencyTolerance ← Form.field? d given "latency_tolerance_ms" .zero
    return {
      frameEncoding, packetEncoding, packetLength, packetInterleaving, fecEncoding
      fecBlockSourcePackets, fecBlockRepairPackets, clockSource, latencyTunerBackend
      latencyTunerProfile, resamplerBackend, resamplerProfile, targetLatency, latencyTolerance }
  write c := .table <|
    Form.entry "frame_encoding" c.frameEncoding
      :: Form.entryIfSome "packet_encoding" c.packetEncoding
      ++ [Form.entry "packet_length_ms" c.packetLength,
        Form.entry "packet_interleaving" c.packetInterleaving,
        Form.entry "fec_encoding" c.fecEncoding,
        Form.entry "fec_block_source_packets" c.fecBlockSourcePackets,
        Form.entry "fec_block_repair_packets" c.fecBlockRepairPackets,
        Form.entry "clock_source" c.clockSource,
        Form.entry "latency_tuner_backend" c.latencyTunerBackend,
        Form.entry "latency_tuner_profile" c.latencyTunerProfile,
        Form.entry "resampler_backend" c.resamplerBackend,
        Form.entry "resampler_profile" c.resamplerProfile,
        Form.entry "target_latency_ms" c.targetLatency,
        Form.entry "latency_tolerance_ms" c.latencyTolerance]

end SenderConfig

/-- Configuration of a receiver. -/
structure ReceiverConfig where
  /-- Encoding of the frames that the caller reads. -/
  frameEncoding : MediaEncoding := {}
  clockSource : ClockSource := .external
  latencyTunerBackend : LatencyTunerBackend := .default
  latencyTunerProfile : LatencyTunerProfile := .default
  resamplerBackend : ResamplerBackend := .default
  resamplerProfile : ResamplerProfile := .default
  /-- How much audio is gathered before playback starts. -/
  targetLatency : Duration := .zero
  /-- How far latency may be off. -/
  latencyTolerance : Duration := .zero
  /-- A session without playback for this long is given up. -/
  noPlaybackTimeout : Duration := .zero
  /-- A session with broken playback for this long is given up. -/
  choppyPlaybackTimeout : Duration := .zero
  deriving DecidableEq, Inhabited

namespace ReceiverConfig

/-- How much audio is gathered before playback if it is not configured. -/
def defaultTargetLatency : Duration := .ofMillis 20

/-- The greatest target latency that an engine takes. -/
def maxTargetLatency : Duration := .ofMillis 10000

/-- How much audio is gathered before playback starts. -/
def effectiveTargetLatency (c : ReceiverConfig) : Duration :=
  if c.targetLatency = .zero then defaultTargetLatency else c.targetLatency

/-- The names of the fields, in the order in which they are written. -/
def fieldNames : List String :=
  ["frame_encoding", "clock_source", "latency_tuner_backend", "latency_tuner_profile",
    "resampler_backend", "resampler_profile", "target_latency_ms", "latency_tolerance_ms",
    "no_playback_timeout_ms", "choppy_playback_timeout_ms"]

instance : Form ReceiverConfig where
  read? d v := do
    let given ← Form.given? d fieldNames v
    let frameEncoding ← Form.field? d given "frame_encoding" {}
    let clockSource ← Form.field? d given "clock_source" .external
    let latencyTunerBackend ← Form.field? d given "latency_tuner_backend" .default
    let latencyTunerProfile ← Form.field? d given "latency_tuner_profile" .default
    let resamplerBackend ← Form.field? d given "resampler_backend" .default
    let resamplerProfile ← Form.field? d given "resampler_profile" .default
    let targetLatency ← Form.field? d given "target_latency_ms" .zero
    let latencyTolerance ← Form.field? d given "latency_tolerance_ms" .zero
    let noPlaybackTimeout ← Form.field? d given "no_playback_timeout_ms" .zero
    let choppyPlaybackTimeout ← Form.field? d given "choppy_playback_timeout_ms" .zero
    return {
      frameEncoding, clockSource, latencyTunerBackend, latencyTunerProfile, resamplerBackend
      resamplerProfile, targetLatency, latencyTolerance, noPlaybackTimeout
      choppyPlaybackTimeout }
  write c := .table [
    Form.entry "frame_encoding" c.frameEncoding,
    Form.entry "clock_source" c.clockSource,
    Form.entry "latency_tuner_backend" c.latencyTunerBackend,
    Form.entry "latency_tuner_profile" c.latencyTunerProfile,
    Form.entry "resampler_backend" c.resamplerBackend,
    Form.entry "resampler_profile" c.resamplerProfile,
    Form.entry "target_latency_ms" c.targetLatency,
    Form.entry "latency_tolerance_ms" c.latencyTolerance,
    Form.entry "no_playback_timeout_ms" c.noPlaybackTimeout,
    Form.entry "choppy_playback_timeout_ms" c.choppyPlaybackTimeout]

end ReceiverConfig

/-- The two kinds of peer. -/
inductive PeerKind where
  /-- Takes frames from the caller and sends them. -/
  | sender
  /-- Gives received frames to the caller. -/
  | receiver
  deriving DecidableEq, Repr

instance : Labelled PeerKind where
  all := [.sender, .receiver]
  label
    | .sender => "sender"
    | .receiver => "receiver"
  find?_label a := by cases a <;> decide

/-- Configuration of a peer of either kind. -/
inductive PeerConfig where
  | sender (config : SenderConfig)
  | receiver (config : ReceiverConfig)
  deriving DecidableEq

namespace PeerConfig

/-- The kind of peer that is configured. -/
def kind : PeerConfig → PeerKind
  | sender _ => .sender
  | receiver _ => .receiver

/-- Encoding of the frames. -/
def frameEncoding : PeerConfig → MediaEncoding
  | sender c => c.frameEncoding
  | receiver c => c.frameEncoding

/-- Who paces the frames. -/
def clockSource : PeerConfig → ClockSource
  | sender c => c.clockSource
  | receiver c => c.clockSource

end PeerConfig
end AudioLink
