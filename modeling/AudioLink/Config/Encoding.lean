import AudioLink.Data.Form
import AudioLink.Interface

/-
Encodings: of the frames that a caller exchanges with a peer, of the packets that a peer exchanges
with the network, and of the error correction between packets.

A frame is a list of samples in which the channels alternate, so the channel count of an encoding
is the unit in which samples are counted everywhere else.
-/
set_option autoImplicit false

namespace AudioLink

/-! ## Frames -/

/-- Format of the samples of a frame. -/
inductive SampleFormat where
  /-- Interleaved 32-bit floating-point numbers. -/
  | pcmFloat32
  deriving DecidableEq, Repr

instance : Inhabited SampleFormat := ⟨.pcmFloat32⟩

instance : Labelled SampleFormat where
  all := [.pcmFloat32]
  label
    | .pcmFloat32 => "pcm_float32"
  find?_label a := by cases a; decide

/-- Layout of the channels of a frame. -/
inductive ChannelLayout where
  /-- Independent tracks, as many as the encoding says. -/
  | multitrack
  | mono
  | stereo
  deriving DecidableEq, Repr

instance : Inhabited ChannelLayout := ⟨.stereo⟩

instance : Labelled ChannelLayout where
  all := [.multitrack, .mono, .stereo]
  label
    | .multitrack => "multitrack"
    | .mono => "mono"
    | .stereo => "stereo"
  find?_label a := by cases a <;> decide

/-- Rate, format and channels of an audio stream. -/
structure MediaEncoding where
  /-- Samples of one channel in a second. -/
  rate : UInt32 := 0
  format : SampleFormat := .pcmFloat32
  channels : ChannelLayout := .stereo
  /-- Number of tracks of a multitrack layout; zero for the others. -/
  tracks : UInt32 := 0
  deriving DecidableEq, Repr, Inhabited

namespace MediaEncoding

/-- Most tracks that an encoding may have. -/
def maxTracks : UInt32 := 1024

/-- The rate of the encodings that need no registration. -/
def defaultRate : UInt32 := 44100

/-- An encoding of a given rate and layout, without tracks. -/
def new (rate : UInt32) (channels : ChannelLayout) : MediaEncoding := { rate, channels }

/-- Two channels. -/
def stereo (rate : UInt32) : MediaEncoding := new rate .stereo

/-- Independent tracks. -/
def multitrack (rate tracks : UInt32) : MediaEncoding := { new rate .multitrack with tracks }

/-- Number of channels in a frame. -/
def channelCount (e : MediaEncoding) : Nat :=
  match e.channels with
  | .mono => 1
  | .stereo => 2
  | .multitrack => e.tracks.toNat

/-- Whether an engine can use the encoding: it has a rate, and as many tracks as its layout
needs. -/
def isValid (e : MediaEncoding) : Bool :=
  e.rate != 0 &&
    match e.channels with
    | .multitrack => 1 ≤ e.tracks && e.tracks ≤ maxTracks
    | .mono | .stereo => e.tracks == 0

/-- A usable encoding has a channel. -/
theorem channelCount_pos {e : MediaEncoding} (h : e.isValid = true) : 0 < e.channelCount := by
  unfold isValid at h
  unfold channelCount
  cases hc : e.channels <;> simp_all [UInt32.le_iff_toNat_le]
  omega

instance : Form MediaEncoding where
  read? d v := do
    let given ← Form.given? d ["rate", "format", "channels", "tracks"] v
    let rate ← Form.field? d given "rate" 0
    let format ← Form.field? d given "format" .pcmFloat32
    let channels ← Form.field? d given "channels" .stereo
    let tracks ← Form.field? d given "tracks" 0
    return { rate, format, channels, tracks }
  write e := .table [
    Form.entry "rate" e.rate,
    Form.entry "format" e.format,
    Form.entry "channels" e.channels,
    Form.entry "tracks" e.tracks]

end MediaEncoding

/-! ## Packets -/

/-- Encoding of the packets of a peer. -/
inductive PacketEncoding where
  /-- One channel at the default rate. -/
  | avpL16Mono
  /-- Two channels at the default rate. -/
  | avpL16Stereo
  /-- The encoding that is registered on the context under this id. -/
  | registered (id : Int32)
  deriving DecidableEq, Repr

namespace PacketEncoding

/-- Smallest id that an encoding can be registered under. -/
def minId : Int32 := 100

/-- Greatest id that an encoding can be registered under. -/
def maxId : Int32 := 127

/-- The media encoding that is fixed by the packet encoding itself. -/
def builtin? : PacketEncoding → Option MediaEncoding
  | avpL16Mono => some (.new MediaEncoding.defaultRate .mono)
  | avpL16Stereo => some (.stereo MediaEncoding.defaultRate)
  | registered _ => none

/-- Reads a packet encoding: the two fixed ones are choices without a value, and a registered one
has its id. -/
def read? (d : Dialect) (v : Value) : Option PacketEncoding := do
  match ← Form.choice? v with
  | ("avp_l16_mono", payload) => if Form.isBare d payload then some avpL16Mono else none
  | ("avp_l16_stereo", payload) => if Form.isBare d payload then some avpL16Stereo else none
  | ("registered", some payload) => (Form.read? d payload).map registered
  | _ => none

instance : Form PacketEncoding where
  read? := read?
  write
    | avpL16Mono => .text "avp_l16_mono"
    | avpL16Stereo => .text "avp_l16_stereo"
    | registered id => .table [Form.entry "registered" id]

end PacketEncoding

/-! ## Error correction -/

/-- Scheme of forward error correction. -/
inductive FecEncoding where
  | disable
  | default
  /-- Reed-Solomon codes over bytes. -/
  | rs8m
  /-- LDPC-Staircase codes. -/
  | ldpcStaircase
  deriving DecidableEq, Repr

instance : Inhabited FecEncoding := ⟨.default⟩

instance : Labelled FecEncoding where
  all := [.disable, .default, .rs8m, .ldpcStaircase]
  label
    | .disable => "disable"
    | .default => "default"
    | .rs8m => "rs8m"
    | .ldpcStaircase => "ldpc_staircase"
  find?_label a := by cases a <;> decide

namespace FecEncoding

/-- The concrete scheme: the usual one is Reed-Solomon. -/
def resolve : FecEncoding → FecEncoding
  | default => rs8m
  | other => other

/-- Whether repair packets are made. -/
def isEnabled (fec : FecEncoding) : Bool := fec.resolve != disable

/-- The protocol that the source interface has to use. -/
def sourceProtocol (fec : FecEncoding) : Protocol :=
  match fec.resolve with
  | disable => .rtp
  | ldpcStaircase => .rtpLdpcSource
  | _ => .rtpRs8mSource

/-- The protocol that the repair interface has to use, if there is one. -/
def repairProtocol? (fec : FecEncoding) : Option Protocol :=
  match fec.resolve with
  | disable => none
  | ldpcStaircase => some .ldpcRepair
  | _ => some .rs8mRepair

end FecEncoding
end AudioLink
