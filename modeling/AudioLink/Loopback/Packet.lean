import AudioLink.Frame
import AudioLink.Text.Bytes

/-
Packets of the loopback engine, and the datagrams that carry them.

A datagram is a header of sixteen bytes and the samples, four bytes each, with every number in
big-endian order:

    magic (2)  version (1)  kind (1)  stream (4)  sequence number (4)  sample count (4)

Reading takes nothing that writing does not produce: the length of a datagram has to be the one
that its sample count says.
-/
set_option autoImplicit false

namespace AudioLink

/-- What a packet is for. -/
inductive PacketKind where
  /-- The audio itself. -/
  | source
  /-- A second copy, in case the first is lost. -/
  | repair
  deriving DecidableEq, Repr

/-- A piece of a stream of audio. -/
structure Packet where
  /-- What it is for. -/
  kind : PacketKind
  /-- Number of the stream, chosen by the sender. -/
  stream : UInt32
  /-- Place in the stream. -/
  seq : UInt32
  /-- Interleaved samples. -/
  samples : Frame
  deriving DecidableEq, Repr

/-! ## Numbers as bytes -/

namespace Bytes

/-- A number of 32 bits, the highest byte first. -/
def ofWord (w : UInt32) : Bytes :=
  [(w >>> 24).toUInt8, (w >>> 16).toUInt8, (w >>> 8).toUInt8, w.toUInt8]

/-- The number of four bytes, the highest byte first. -/
def word (a b c d : UInt8) : UInt32 :=
  a.toUInt32 <<< 24 ||| b.toUInt32 <<< 16 ||| c.toUInt32 <<< 8 ||| d.toUInt32

/-- Numbers of 32 bits in a row. -/
def ofWords (ws : List UInt32) : Bytes := ws.flatMap ofWord

/-- The numbers of a byte string, if it is made of such numbers. -/
def words? : Bytes → Option (List UInt32)
  | [] => some []
  | a :: b :: c :: d :: rest => (words? rest).map (word a b c d :: ·)
  | _ => none

end Bytes

/-! ## Datagrams -/

namespace Packet

/-- The number that every datagram begins with. -/
def magic : UInt16 := 0xA51C

/-- Version of the format. -/
def version : UInt8 := 2

/-- Number of bytes in front of the samples. -/
def headerLength : Nat := 16

/-- The byte of a kind. -/
def kindByte : PacketKind → UInt8
  | .source => 0
  | .repair => 1

/-- The kind of a byte. -/
def kindOfByte? (b : UInt8) : Option PacketKind :=
  if b = 0 then some .source else if b = 1 then some .repair else none

/-- The datagram of a packet. Of the number of samples 32 bits are written. -/
def encode (p : Packet) : Bytes :=
  [(magic >>> 8).toUInt8, magic.toUInt8, version, kindByte p.kind]
    ++ Bytes.ofWord p.stream ++ Bytes.ofWord p.seq ++ Bytes.ofWord (UInt32.ofNat p.samples.length)
    ++ Bytes.ofWords p.samples

/-- The packet of a datagram. -/
def decode? : Bytes → Option Packet
  | m₁ :: m₂ :: v :: k :: s₁ :: s₂ :: s₃ :: s₄ :: q₁ :: q₂ :: q₃ :: q₄
      :: c₁ :: c₂ :: c₃ :: c₄ :: body =>
    if m₁ = (magic >>> 8).toUInt8 ∧ m₂ = magic.toUInt8 ∧ v = version then
      match kindOfByte? k, Bytes.words? body with
      | some kind, some samples =>
        if samples.length = (Bytes.word c₁ c₂ c₃ c₄).toNat then
          some ⟨kind, Bytes.word s₁ s₂ s₃ s₄, Bytes.word q₁ q₂ q₃ q₄, samples⟩
        else none
      | _, _ => none
    else none
  | _ => none

/-- Number of samples that fit into a datagram of `size` bytes. -/
def maxSamples (size : Nat) : Nat := (size - headerLength) / 4

end Packet
end AudioLink
