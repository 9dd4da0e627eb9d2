import AudioLink.Proofs.Time.Period
import Mathlib.Algebra.BigOperators.Intervals
import Mathlib.Algebra.Order.BigOperators.Group.Finset

/-
How fast samples flow through a pacer.

A caller waits before each frame, for as long as the pacer says. Time is not under the control of the
pacer: the clock may stand still or leap ahead, and a sleep may last longer than was asked. All that
is taken for granted is said in `Waits.Timely`, that the clock never goes back and that no sleep is
cut short.

What carries every bound is the moment at which a call is due. From one call to the next it moves on
by at least the length of the samples, whatever the clock reads; no call returns before it is due; and
no call is due more than `maxLag` before it starts.
-/
set_option autoImplicit false

namespace AudioLink
namespace Pacer

variable {p : Pacer} {deadline : Nat}

/-! ## One call -/

theorem dueAt_of_none (hp : p.deadline = none) (now : Nat) : p.dueAt now = now := by
  rw [dueAt, hp]

/-- A call is never due before the deadline. -/
theorem le_dueAt (hp : p.deadline = some deadline) (now : Nat) : deadline ≤ p.dueAt now := by
  rw [dueAt, hp]
  dsimp only
  split
  · exact Nat.le_refl _
  · omega

/-- It is due at the deadline or at once. -/
theorem dueAt_le (hp : p.deadline = some deadline) (now : Nat) : p.dueAt now ≤ max deadline now := by
  rw [dueAt, hp]
  dsimp only
  split
  · exact Nat.le_max_left _ _
  · exact Nat.le_max_right _ _

/-- A call that is due long before it starts is due when it starts. -/
theorem le_dueAt_add_maxLag (p : Pacer) (now : Nat) : now ≤ p.dueAt now + maxLag := by
  rw [dueAt]
  split
  · split
    · assumption
    · exact Nat.le_add_right _ _
  · exact Nat.le_add_right _ _

/-- A sleep that lasts as long as was asked ends when the call is due. -/
theorem dueAt_le_add_sleep (p : Pacer) (now : Nat) : p.dueAt now ≤ now + p.sleep now := by
  rw [sleep]
  omega

theorem sleep_of_none (hp : p.deadline = none) (now : Nat) : p.sleep now = 0 := by
  rw [sleep, dueAt_of_none hp, Nat.sub_self]

theorem sleep_le (hp : p.deadline = some deadline) (now : Nat) : p.sleep now ≤ deadline - now := by
  have hle := dueAt_le hp now
  rw [sleep]
  omega

/-! ## Calls in a row -/

/-- Calls of a pacer: when each starts, for how many samples it is, and when it returns. -/
structure Waits where
  start : Nat → Nat
  samples : Nat → UInt64
  finish : Nat → Nat

namespace Waits

/-- The pacer before the call of a number, if it is `p` before the first one. -/
def pacer (w : Waits) (p : Pacer) : Nat → Pacer
  | 0 => p
  | k + 1 => (w.pacer p k).advance (w.start k) (w.samples k)

/-- When the call of a number is due. -/
def due (w : Waits) (p : Pacer) (k : Nat) : Nat := (w.pacer p k).dueAt (w.start k)

/-- For how long the call of a number asks to sleep. -/
def asked (w : Waits) (p : Pacer) (k : Nat) : Nat := (w.pacer p k).sleep (w.start k)

/-- The first `n` calls are made one after the other by a clock that never goes back, and every
sleep lasts at least as long as was asked. -/
structure Timely (w : Waits) (p : Pacer) (n : Nat) : Prop where
  sleeps : ∀ k < n, w.start k + w.asked p k ≤ w.finish k
  clock : ∀ k, k + 1 < n → w.finish k ≤ w.start (k + 1)

variable {w : Waits} {n : Nat}

/-- Pacing changes neither the rate nor the channels, and with them no length. -/
theorem period_pacer (w : Waits) (p : Pacer) (k : Nat) (samples : UInt64) :
    (w.pacer p k).period samples = p.period samples := by
  induction k with
  | zero => rfl
  | succ k ih => exact ih

theorem period?_pacer (w : Waits) (build : Build) (p : Pacer) (k : Nat) (samples : UInt64) :
    (w.pacer p k).period? build samples = p.period? build samples := by
  induction k with
  | zero => rfl
  | succ k ih => exact ih

theorem deadline_pacer_succ (w : Waits) (p : Pacer) (k : Nat) :
    (w.pacer p (k + 1)).deadline = some (w.due p k + (p.period (w.samples k)).nanos) := by
  rw [← period_pacer w p k]
  rfl

/-- A call whose samples fit is made in every build, and it leaves the pacer as any other build does. -/
theorem advance?_pacer (w : Waits) (build : Build) (rate : UInt32) (channels : UInt64) {k : Nat}
    (hfits : Fits channels (w.samples k)) :
    (w.pacer (new rate channels) k).advance? build (w.start k) (w.samples k) =
      some (w.pacer (new rate channels) (k + 1)) := by
  have hsame : (w.pacer (new rate channels) k).period? build (w.samples k) =
      some ((w.pacer (new rate channels) k).period (w.samples k)) := by
    rw [period?_pacer, period_pacer]
    exact period?_of_fits build rate hfits
  rw [advance?, hsame]
  rfl

/-- From one call to the next, what is due moves on by at least the length of the samples. -/
theorem due_succ (w : Waits) (p : Pacer) (k : Nat) :
    w.due p k + (p.period (w.samples k)).nanos ≤ w.due p (k + 1) :=
  le_dueAt (deadline_pacer_succ w p k) _

/-- Over several calls it moves on by the lengths of all of them. -/
theorem due_add_sum (w : Waits) (p : Pacer) {j k : Nat} (hjk : j ≤ k) :
    w.due p j + ∑ i ∈ Finset.Ico j k, (p.period (w.samples i)).nanos ≤ w.due p k := by
  -- On the number of the later call; from each to the next it is the bound for one call.
  induction k, hjk using Nat.le_induction with
  | base => rw [Finset.Ico_self, Finset.sum_empty, Nat.add_zero]
  | succ k hjk ih =>
    rw [Finset.sum_Ico_succ_top hjk]
    have hstep := due_succ w p k
    omega

namespace Timely

variable (h : w.Timely p n) {j k : Nat}
include h

/-- No call returns before it is due. -/
theorem due_le_finish (hk : k < n) : w.due p k ≤ w.finish k :=
  Nat.le_trans (dueAt_le_add_sleep _ _) (h.sleeps k hk)

/-- A call asks for no more than the length of the samples of the call before it. -/
theorem asked_succ_le (hk : k + 1 < n) :
    w.asked p (k + 1) ≤ (p.period (w.samples k)).nanos := by
  have hasked : w.asked p (k + 1) ≤
      w.due p k + (p.period (w.samples k)).nanos - w.start (k + 1) :=
    sleep_le (deadline_pacer_succ w p k) _
  -- The call before it has returned, and so it was due.
  have hdue := h.due_le_finish (Nat.lt_of_succ_lt hk)
  have hclock := h.clock k hk
  omega

end Timely
end Waits

/-! ## Bounds -/

/-- Samples are paced to the rate of a new pacer, whatever the clock does in between. The first call
asks for no sleep, and a later one at most for the length of the samples of the call before it. A call
returns no earlier than the first one started plus the lengths of all samples before it, so that
samples never flow faster than the rate. And between the start of one call and the return of a later
one, the samples are at most `maxLag` ahead of the clock, so that what a stall has held up is never
made up for by more than that. No build abandons any of these calls. -/
theorem paced_to_rate (rate : UInt32) (channels : UInt64) {w : Waits} {n : Nat}
    (hfits : ∀ k < n, Fits channels (w.samples k)) (htimely : w.Timely (new rate channels) n) :
    (∀ build, ∀ k < n, (w.pacer (new rate channels) k).advance? build (w.start k) (w.samples k) =
      some (w.pacer (new rate channels) (k + 1))) ∧
    w.asked (new rate channels) 0 = 0 ∧
    (∀ k, k + 1 < n →
      w.asked (new rate channels) (k + 1) ≤ lasting rate channels (w.samples k)) ∧
    (∀ k < n, w.start 0 + ∑ i ∈ Finset.range k, lasting rate channels (w.samples i)
      ≤ w.finish k) ∧
    (∀ j k, j < k → k < n → w.start j +
      ∑ i ∈ Finset.Ico j k, lasting rate channels (w.samples i) ≤ w.finish k + maxLag) := by
  -- As every period fits, the lengths in words add up to the lengths.
  have hsum (j k : Nat) (hk : k < n) :
      ∑ i ∈ Finset.Ico j k, lasting rate channels (w.samples i) =
        ∑ i ∈ Finset.Ico j k, ((new rate channels).period (w.samples i)).nanos := by
    refine Finset.sum_congr rfl fun i hi => (period_of_fits rate (hfits i ?_)).symm
    exact Nat.lt_trans (Finset.mem_Ico.mp hi).2 hk
  refine ⟨fun build k hk => Waits.advance?_pacer w build rate channels (hfits k hk),
    sleep_of_none rfl _, fun k hk => ?_, fun k hk => ?_, fun j k hjk hk => ?_⟩
  · rw [← period_of_fits rate (hfits k (Nat.lt_of_succ_lt hk))]
    exact htimely.asked_succ_le hk
  · -- The first call is due when it starts.
    have hfirst : w.due (new rate channels) 0 = w.start 0 := dueAt_of_none rfl _
    have hlater := Waits.due_add_sum w (new rate channels) (Nat.zero_le k)
    rw [Finset.range_eq_Ico, hsum 0 k hk]
    rw [hfirst] at hlater
    exact Nat.le_trans hlater (htimely.due_le_finish hk)
  · -- Any other call may be due before it starts, and this is where the lag comes in.
    have hstart : w.start j ≤ w.due (new rate channels) j + maxLag := le_dueAt_add_maxLag _ _
    have hlater := Waits.due_add_sum w (new rate channels) (Nat.le_of_lt hjk)
    have hdue := htimely.due_le_finish hk
    rw [hsum j k hk]
    omega

/-- Ten samples in each call, at 1 kHz: the second call oversleeps, and the third one comes after a
stall of half a second. -/
def stalled : Waits where
  start := fun k => [0, 0, 512000000, 512000000].getD k 0
  samples := fun _ => 10
  finish := fun k => [0, 12000000, 512000000, 522000000].getD k 0

theorem paced_to_rate_stalled :
    (stalled.pacer (new 1000 1) 2).advance? .checked 512000000 10 =
        some (stalled.pacer (new 1000 1) 3) ∧
      stalled.asked (new 1000 1) 3 ≤ lasting 1000 1 10 ∧
      0 + ∑ i ∈ Finset.range 3, lasting 1000 1 (stalled.samples i) ≤ 522000000 ∧
      0 + ∑ i ∈ Finset.Ico 1 3, lasting 1000 1 (stalled.samples i) ≤ 522000000 + maxLag := by
  have hfits : ∀ k < 4, Fits 1 (stalled.samples k) := by decide
  have hclock : ∀ k < 3, stalled.finish k ≤ stalled.start (k + 1) := by decide
  have htimely : stalled.Timely (new 1000 1) 4 :=
    ⟨by decide, fun k hk => hclock k (Nat.lt_of_succ_lt_succ hk)⟩
  obtain ⟨hmade, -, hasked, hreturned, hburst⟩ := paced_to_rate 1000 1 hfits htimely
  exact ⟨hmade .checked 2 (by decide), hasked 2 (by decide), hreturned 3 (by decide), hburst 1 3 (by decide) (by decide)⟩

end Pacer
end AudioLink
