/-
Spans of time.

A span is counted in nanoseconds and is shorter than 2^64 seconds, so it is never longer than what
a count of seconds in one word allows. Configurations hold spans in whole milliseconds; writing one
drops the part below a millisecond and keeps 64 bits of the count.
-/
set_option autoImplicit false

namespace AudioLink

/-- A span of time, exact to the nanosecond. -/
structure Duration where
  /-- Its length in nanoseconds. -/
  nanos : Nat
  /-- It is shorter than 2^64 seconds. -/
  nanos_lt : nanos < UInt64.size * 1000000000
  deriving DecidableEq

namespace Duration

/-- No time at all. -/
def zero : Duration := ⟨0, by decide⟩

instance : Inhabited Duration := ⟨zero⟩

/-- A whole number of milliseconds. -/
def ofMillis (n : UInt64) : Duration :=
  ⟨n.toNat * 1000000, by have := n.toNat_lt_size; omega⟩

/-- A whole number of nanoseconds. -/
def ofNanos (n : UInt64) : Duration :=
  ⟨n.toNat, by have := n.toNat_lt_size; omega⟩

/-- Seconds and nanoseconds, if the sum is in range. -/
def ofParts? (secs nanos : Nat) : Option Duration :=
  if h : secs * 1000000000 + nanos < UInt64.size * 1000000000 then
    some ⟨secs * 1000000000 + nanos, h⟩
  else none

/-- The length in milliseconds, rounded down. -/
def wholeMillis (d : Duration) : Nat := d.nanos / 1000000

/-- The count of milliseconds that is written for a span: the lowest 64 bits of it. -/
def millis (d : Duration) : UInt64 := UInt64.ofNat d.wholeMillis

/-- A span of whole milliseconds is written as their count. -/
@[simp] theorem millis_ofMillis (n : UInt64) : (ofMillis n).millis = n := by
  simp [millis, wholeMillis, ofMillis]

end Duration
end AudioLink
