import AudioLink.Time.Duration

/-
Pacing of frames, so that samples flow at the configured rate.

A pacer holds the moment at which the next frame is due. It has no clock of its own: every wait is
told the reading of one, in nanoseconds, and answers how long to sleep. A caller who is behind by
more than `maxLag` is not allowed to catch up; pacing then starts again from the reading.

How long a frame lasts is a quotient whose dividend is formed in a word of 64 bits. Whether a dividend
that is too large for the word is noticed depends on how the program is built, and so this module says
what either kind of build does: `period?` and `advance?` answer nothing where the computation is
abandoned, and `period` and `advance` are what is computed where it goes on.
-/
set_option autoImplicit false

namespace AudioLink

/-- How a program is built: whether it notices a product that is too large for its word. A build for
development and for tests does, one for release does not. -/
inductive Build where
  | checked
  | unchecked
  deriving DecidableEq

namespace Build

/-- The product of two words; none if the build abandons the computation there. -/
def mul? (build : Build) (a b : UInt64) : Option UInt64 :=
  match build with
  | .checked => if a.toNat * b.toNat < UInt64.size then some (a * b) else none
  -- The word keeps the lowest 64 bits.
  | .unchecked => some (a * b)

/-- The text with which a computation is abandoned at a product. -/
def overflowText : String := "attempt to multiply with overflow"

end Build

/-- Where frame input and output stand against the rate. -/
structure Pacer where
  /-- Samples of one channel in a second. -/
  rate : UInt32
  channels : UInt64
  /-- When the next frame is due; unknown before the first one. -/
  deadline : Option Nat := none
  deriving DecidableEq

namespace Pacer

/-- How far behind a caller may be, in nanoseconds. -/
def maxLag : Nat := 100000000

/-- A pacer that has seen no frame; a rate or a channel count of zero is taken as one. -/
def new (rate : UInt32) (channels : UInt64) : Pacer where
  rate := if rate = 0 then 1 else rate
  channels := if channels = 0 then 1 else channels

/-- How long a number of interleaved samples lasts, as a build answers it; none if it abandons the
computation at the product of whole frames and 10^9. -/
def period? (build : Build) (p : Pacer) (samples : UInt64) : Option Duration :=
  (build.mul? (samples / p.channels) 1000000000).map fun nanos => .ofNanos (nanos / p.rate.toUInt64)

/-- How long a number of interleaved samples lasts, made of what a word keeps of the product: the
answer of a build that does not check, and of any build as long as the product fits. -/
def period (p : Pacer) (samples : UInt64) : Duration :=
  .ofNanos (samples / p.channels * 1000000000 / p.rate.toUInt64)

/-- The moment at which a frame is due at the reading `now`: the deadline, unless it is too long
ago. -/
def dueAt (p : Pacer) (now : Nat) : Nat :=
  match p.deadline with
  -- A deadline in the past is kept while it is recent, so that short delays are made up for.
  | some deadline => if now ≤ deadline + maxLag then deadline else now
  | none => now

/-- How long to sleep from the reading `now` until the next frame is due. -/
def sleep (p : Pacer) (now : Nat) : Nat := p.dueAt now - now

/-- The pacer after a frame of `samples` samples for which the clock read `now`, as a build leaves it;
none if it abandons the computation of the length. -/
def advance? (build : Build) (p : Pacer) (now : Nat) (samples : UInt64) : Option Pacer :=
  (p.period? build samples).map fun d => { p with deadline := some (p.dueAt now + d.nanos) }

/-- The pacer after a frame of `samples` samples for which the clock read `now`, in a build that does
not check. -/
def advance (p : Pacer) (now : Nat) (samples : UInt64) : Pacer :=
  { p with deadline := some (p.dueAt now + (p.period samples).nanos) }

/-- Frames in a row on a clock that moves only while the pacer sleeps: how long each of them
sleeps. -/
def sleeps (p : Pacer) (now : Nat) : List UInt64 → List Nat
  | [] => []
  | samples :: rest =>
    let pause := p.sleep now
    pause :: sleeps (p.advance now samples) (now + pause) rest

end Pacer
end AudioLink
