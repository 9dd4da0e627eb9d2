/-
Frames of audio.

A frame is a list of samples in which the channels alternate. A sample is moved but never computed
with, so it is kept as the 32 bits that it has as a floating-point number.
-/
set_option autoImplicit false

namespace AudioLink

/-- A sample of audio, as the 32 bits of a floating-point number. -/
abbrev Sample := UInt32

/-- Interleaved samples. -/
abbrev Frame := List Sample

/-- A sample of no sound. -/
def silence : Sample := 0

end AudioLink
