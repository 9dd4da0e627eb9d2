import AudioLink.Frame

/-
Cutting a stream of samples into packets of equal size.

Frames may have any length; what does not fill a packet stays pending until more samples come. The
packets are numbered in the order in which they are cut, with numbers of 32 bits that start again
from zero. The size of a packet is not zero, since a stream cannot be cut into nothing.
-/
set_option autoImplicit false

namespace AudioLink

/-- A piece of a stream with its number. -/
structure Piece where
  /-- Place in the stream. -/
  seq : UInt32
  /-- The samples. -/
  samples : Frame
  deriving DecidableEq, Repr

/-- A stream that is being cut. -/
structure Packetizer where
  /-- Samples of a packet. -/
  size : Nat
  /-- A packet has a sample. -/
  size_pos : 0 < size
  /-- Samples that have not filled a packet yet. -/
  pending : Frame := []
  /-- Number of the next packet. -/
  seq : UInt32 := 0

namespace Packetizer

/-- Cuts samples into runs of `size`; the last part of the answer is what remains. -/
def cut (size : Nat) (h : 0 < size) (samples : Frame) : List Frame × Frame :=
  if size ≤ samples.length then
    let (runs, rest) := cut size h (samples.drop size)
    (samples.take size :: runs, rest)
  else ([], samples)
termination_by samples.length
decreasing_by simp only [List.length_drop]; omega

/-- Numbers the runs of a stream, from `seq` on. -/
def number (seq : UInt32) : List Frame → List Piece
  | [] => []
  | samples :: rest => ⟨seq, samples⟩ :: number (seq + 1) rest

/-- Adds a frame to the stream: the pieces that it completes, and the stream afterwards. -/
def push (p : Packetizer) (frame : Frame) : List Piece × Packetizer :=
  let (runs, rest) := cut p.size p.size_pos (p.pending ++ frame)
  (number p.seq runs, { p with pending := rest, seq := p.seq + UInt32.ofNat runs.length })

end Packetizer
end AudioLink
