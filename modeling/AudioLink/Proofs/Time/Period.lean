import AudioLink.Time.Pacer
import Mathlib.Order.Basic

/-
How long a number of samples lasts.

The length of samples is their number of whole frames times 10^9, divided by the rate. A pacer forms
the product in a word of 64 bits, so what it answers is the length only as long as the product fits
into one. Beyond, a build that checks its products abandons the computation, and one that does not
divides what is left of the product, which is always too short. The main statement is that these are
exactly the cases.
-/
set_option autoImplicit false

namespace AudioLink
namespace Pacer

variable {rate : UInt32} {channels samples : UInt64}

/-! ## Lengths without bounds -/

/-- Number of whole frames in a number of samples; no channel counts as one. -/
def framesOf (channels samples : UInt64) : Nat := samples.toNat / max channels.toNat 1

/-- How long a number of samples lasts in nanoseconds, rounded down; a rate of zero counts as
one. -/
def lasting (rate : UInt32) (channels samples : UInt64) : Nat :=
  framesOf channels samples * 1000000000 / max rate.toNat 1

/-- Whether the product of frames and 10^9 fits into a word. -/
def Fits (channels samples : UInt64) : Prop :=
  framesOf channels samples * 1000000000 < UInt64.size

instance (channels samples : UInt64) : Decidable (Fits channels samples) :=
  inferInstanceAs (Decidable (_ < _))

/-- More samples are no fewer frames. -/
theorem framesOf_mono (channels : UInt64) {a b : UInt64} (hab : a ≤ b) :
    framesOf channels a ≤ framesOf channels b :=
  Nat.div_le_div_right (UInt64.le_iff_toNat_le.mp hab)

/-- More samples last no shorter. -/
theorem lasting_mono (rate : UInt32) (channels : UInt64) {a b : UInt64} (hab : a ≤ b) :
    lasting rate channels a ≤ lasting rate channels b :=
  Nat.div_le_div_right (Nat.mul_le_mul_right _ (framesOf_mono channels hab))

/-- What is shorter fits if what is longer does. -/
theorem Fits.of_le {a b : UInt64} (hab : a ≤ b) (hb : Fits channels b) : Fits channels a :=
  Nat.lt_of_le_of_lt (Nat.mul_le_mul_right _ (framesOf_mono channels hab)) hb

/-! ## Lengths in words -/

/-- A pacer divides by one channel at least. -/
theorem toNat_channels_new (rate : UInt32) (channels : UInt64) :
    (new rate channels).channels.toNat = max channels.toNat 1 := by
  rw [new]
  by_cases hzero : channels = 0
  · rw [if_pos hzero, hzero]
    rfl
  · rw [if_neg hzero]
    have hne : channels.toNat ≠ 0 := fun h => hzero (UInt64.toNat_inj.mp h)
    exact (Nat.max_eq_left (Nat.pos_of_ne_zero hne)).symm

/-- A pacer divides by a rate of one at least. -/
theorem toNat_rate_new (rate : UInt32) (channels : UInt64) :
    (new rate channels).rate.toNat = max rate.toNat 1 := by
  rw [new]
  by_cases hzero : rate = 0
  · rw [if_pos hzero, hzero]
    rfl
  · rw [if_neg hzero]
    have hne : rate.toNat ≠ 0 := fun h => hzero (UInt32.toNat_inj.mp h)
    exact (Nat.max_eq_left (Nat.pos_of_ne_zero hne)).symm

/-- What a pacer divides is what a word keeps of the product. -/
theorem nanos_period (rate : UInt32) (channels samples : UInt64) :
    ((new rate channels).period samples).nanos =
      framesOf channels samples * 1000000000 % UInt64.size / max rate.toNat 1 := by
  have hword : ((new rate channels).period samples).nanos = (samples / (new rate channels).channels
      * 1000000000 / (new rate channels).rate.toUInt64).toNat := rfl
  rw [hword, UInt64.toNat_div, UInt64.toNat_mul, UInt64.toNat_div, toNat_channels_new,
    UInt32.toNat_toUInt64, toNat_rate_new]
  rfl

/-- A number that is cut to its remainder before it is divided gives a smaller quotient. -/
theorem mod_div_lt_div {n m r : Nat} (hr : 0 < r) (hrm : r ≤ m) (hmn : m ≤ n) :
    n % m / r < n / r := by
  -- The cut takes away at least `m`, hence at least one divisor.
  have hcut : n % m + r ≤ n := by
    rw [Nat.mod_eq_sub_mod hmn]
    have hle : (n - m) % m ≤ n - m := Nat.mod_le _ _
    omega
  have hless : (n % m + r) / r ≤ n / r := Nat.div_le_div_right hcut
  rw [Nat.add_div_right _ hr] at hless
  exact hless

/-- Where the product fits, the words compute what they stand for. -/
theorem period_of_fits (rate : UInt32) (hfits : Fits channels samples) :
    ((new rate channels).period samples).nanos = lasting rate channels samples := by
  rw [nanos_period, Nat.mod_eq_of_lt hfits, lasting]

/-- Where the product wraps, what is computed is always too short, and never right by accident. -/
theorem period_of_not_fits (rate : UInt32) (hfits : ¬ Fits channels samples) :
    ((new rate channels).period samples).nanos < lasting rate channels samples := by
  have hpos : 0 < max rate.toNat 1 := Nat.lt_of_lt_of_le Nat.zero_lt_one (Nat.le_max_right _ _)
  have hrate : max rate.toNat 1 ≤ UInt64.size := by
    have hword : UInt32.size ≤ UInt64.size := by decide
    exact Nat.max_le.mpr ⟨Nat.le_trans (Nat.le_of_lt rate.toNat_lt_size) hword, by decide⟩
  rw [nanos_period]
  exact mod_div_lt_div hpos hrate (Nat.le_of_not_lt hfits)

/-- What is divided is the length exactly if the product fits into a word. -/
theorem nanos_period_eq_lasting_iff (rate : UInt32) (channels samples : UInt64) :
    ((new rate channels).period samples).nanos = lasting rate channels samples ↔
      Fits channels samples := by
  constructor
  · intro heq
    by_contra hfits
    exact Nat.ne_of_lt (period_of_not_fits rate hfits) heq
  · exact period_of_fits rate

/-! ## Builds -/

/-- A build without checks always answers. -/
theorem period?_unchecked (p : Pacer) (samples : UInt64) :
    p.period? .unchecked samples = some (p.period samples) := rfl

/-- The operands that a build multiplies are those of `Fits`. -/
theorem toNat_mul_toNat (rate : UInt32) (channels samples : UInt64) :
    (samples / (new rate channels).channels).toNat * (1000000000 : UInt64).toNat =
      framesOf channels samples * 1000000000 := by
  rw [UInt64.toNat_div, toNat_channels_new, framesOf]
  rfl

/-- A build that checks its products answers as one that does not, or abandons the computation. -/
theorem period?_checked (rate : UInt32) (channels samples : UInt64) :
    (new rate channels).period? .checked samples =
      if Fits channels samples then some ((new rate channels).period samples) else none := by
  have hproduct : Build.checked.mul? (samples / (new rate channels).channels) 1000000000 =
      if Fits channels samples then some (samples / (new rate channels).channels * 1000000000)
      else none := by
    rw [Build.mul?, toNat_mul_toNat]
    exact if_congr Iff.rfl rfl rfl
  rw [period?, hproduct]
  by_cases hfits : Fits channels samples
  · rw [if_pos hfits, if_pos hfits]
    rfl
  · rw [if_neg hfits, if_neg hfits]
    rfl

/-- As long as the product fits, it makes no difference how the program is built. -/
theorem period?_of_fits (build : Build) (rate : UInt32) (hfits : Fits channels samples) :
    (new rate channels).period? build samples = some ((new rate channels).period samples) := by
  cases build with
  | checked => rw [period?_checked, if_pos hfits]
  | unchecked => exact period?_unchecked _ _

/-- How long samples last is computed from a product of whole frames and 10^9. A build that does not
check it answers what is made of the part that a word keeps: this is the length of the samples, rounded
down to nanoseconds, exactly if the product fits into a word, and shorter otherwise. A build that
checks it gives the same answer as long as the product fits, and none otherwise. As far as the product
fits, more samples never last shorter in any build. -/
theorem period_exact (rate : UInt32) (channels : UInt64) :
    (∀ samples, ∃ d, (new rate channels).period? .unchecked samples = some d ∧
      d.nanos = framesOf channels samples * 1000000000 % UInt64.size / max rate.toNat 1 ∧
      (d.nanos = lasting rate channels samples ↔ Fits channels samples) ∧
      (¬ Fits channels samples → d.nanos < lasting rate channels samples)) ∧
    (∀ samples, (new rate channels).period? .checked samples =
      if Fits channels samples then (new rate channels).period? .unchecked samples else none) ∧
    (∀ build a b, a ≤ b → Fits channels b → ∃ d e,
      (new rate channels).period? build a = some d ∧
      (new rate channels).period? build b = some e ∧ d.nanos ≤ e.nanos) := by
  refine ⟨fun samples => ?_, period?_checked rate channels, fun build a b hab hb => ?_⟩
  · exact ⟨(new rate channels).period samples, period?_unchecked _ _,
      nanos_period rate channels samples, nanos_period_eq_lasting_iff rate channels samples,
      period_of_not_fits rate⟩
  · refine ⟨_, _, period?_of_fits build rate (hb.of_le hab), period?_of_fits build rate hb, ?_⟩
    rw [period_of_fits rate (hb.of_le hab), period_of_fits rate hb]
    exact lasting_mono rate channels hab

/-- The longest length that is right, in one channel at 48 kHz. -/
theorem period_exact_longest :
    (∃ d, (new 48000 1).period? .checked 18446744073 = some d ∧ d.nanos = 384307168187500) ∧
      ∃ d e, (new 48000 1).period? .checked 44100 = some d ∧
        (new 48000 1).period? .checked 18446744073 = some e ∧ d.nanos ≤ e.nanos := by
  have hfits : Fits 1 18446744073 := by decide
  obtain ⟨hword, hchecked, hmono⟩ := period_exact 48000 1
  obtain ⟨d, hd, -, hexact, -⟩ := hword 18446744073
  have hlasting : lasting 48000 1 18446744073 = 384307168187500 := by decide
  refine ⟨⟨d, ?_, (hexact.mpr hfits).trans hlasting⟩,
    hmono .checked 44100 18446744073 (by decide) hfits⟩
  rw [hchecked, if_pos hfits, hd]

/-- One sample more, and there is no answer where products are checked. Where they are not, what should
be four days is six microseconds. -/
theorem period_overflows :
    lasting 48000 1 18446744074 = 384307168208333 ∧
      (new 48000 1).period? .checked 18446744074 = none ∧
      ∃ d e, (new 48000 1).period? .unchecked 18446744073 = some d ∧
        (new 48000 1).period? .unchecked 18446744074 = some e ∧ e.nanos = 6051 ∧ e.nanos < d.nanos := by
  have hlast : ((new 48000 1).period 18446744074).nanos = 6051 := by
    rw [nanos_period]
    decide
  refine ⟨by decide, ?_, _, _, period?_unchecked _ _, period?_unchecked _ _, hlast, ?_⟩
  · rw [period?_checked, if_neg (by decide)]
  · rw [hlast, nanos_period]
    decide

end Pacer
end AudioLink
