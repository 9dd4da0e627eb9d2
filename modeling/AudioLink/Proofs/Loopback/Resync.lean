import AudioLink.Proofs.Loopback.Cutting
import AudioLink.Proofs.Loopback.SequenceFilter

/-
How long a slot can be silenced.

A slot that has accepted a packet drops the packets of the same stream that are not newer, unless they
are 64 or more behind it. Whatever number it has accepted, forged or wild or from before a restart, a
stream that counts on from any number is heard again soon: `lag` is how many packets of it are
dropped. It goes down by one with each packet that is dropped, and stays zero once one is taken.
-/
set_option autoImplicit false

namespace AudioLink

/-! ## The lag of a number -/

namespace StreamPosition

/-- How many packets of a stream are dropped after a position, if they count on from a number: the ones
up to the position, if the first is of the same stream and less than the resynchronisation gap behind.
-/
def lag (last : Option StreamPosition) (stream seq : UInt32) : Nat :=
  match last with
  | none => 0
  | some last =>
    if last.stream = stream ∧ (last.seq - seq).toNat < 64 then (last.seq - seq).toNat + 1 else 0

theorem lag_le (last : Option StreamPosition) (stream seq : UInt32) : lag last stream seq ≤ 64 := by
  cases last with
  | none => exact Nat.zero_le _
  | some q =>
    rw [lag]
    split <;> omega

theorem lag_of_stream_ne {last : Option StreamPosition} {stream : UInt32}
    (h : ∀ q, last = some q → q.stream ≠ stream) (seq : UInt32) : lag last stream seq = 0 := by
  cases last with
  | none => rfl
  | some q => exact if_neg fun hsame => h q rfl hsame.1

/-- There are packets to be dropped as long as the next one is stale. -/
theorem isStale_eq_lag (last : Option StreamPosition) (x : Packet) :
    last.any (·.isStale x) = decide (0 < lag last x.stream x.seq) := by
  cases last with
  | none => rfl
  | some q =>
    rw [Option.any_some, lag, Bool.eq_iff_iff, isStale_iff, decide_eq_true_eq]
    constructor
    · rintro ⟨hstream, k, hk, hseq⟩
      have hdistance : (q.seq - x.seq).toNat = k := by
        have hcancel : q.seq - x.seq = UInt32.ofNat k := by
          rw [hseq]
          grind
        rw [hcancel, UInt32.toNat_ofNat']
        omega
      rw [if_pos ⟨hstream.symm, by omega⟩]
      omega
    · intro hlag
      by_cases hbehind : q.stream = x.stream ∧ (q.seq - x.seq).toNat < 64
      · refine ⟨hbehind.1.symm, (q.seq - x.seq).toNat, by omega, ?_⟩
        rw [UInt32.ofNat_toNat]
        grind
      · rw [if_neg hbehind] at hlag
        exact absurd hlag (Nat.lt_irrefl 0)

/-- With each packet there is one less to be dropped, and none any more once one has been taken. -/
theorem lag_after (last : Option StreamPosition) (x : Packet) :
    lag (after last x) x.stream (x.seq + 1) = lag last x.stream x.seq - 1 := by
  rw [after, isStale_eq_lag]
  by_cases hlag : 0 < lag last x.stream x.seq
  · -- Dropped: the position stays, and the next number is one nearer to it.
    rw [decide_eq_true hlag, if_pos rfl]
    cases last with
    | none => rfl
    | some q =>
      rw [lag] at hlag ⊢
      rw [lag]
      by_cases hbehind : q.stream = x.stream ∧ (q.seq - x.seq).toNat < 64
      · rw [if_pos hbehind, Nat.add_sub_cancel]
        have hnext : (q.seq - (x.seq + 1)).toNat
            = ((q.seq - x.seq).toNat + (2 ^ 32 - 1)) % 2 ^ 32 := by
          have hone : q.seq - (x.seq + 1) = q.seq - x.seq - 1 := by grind
          rw [hone, UInt32.toNat_sub, UInt32.toNat_one]
          omega
        simp only [hbehind.1, true_and]
        split <;> omega
      · rw [if_neg hbehind] at hlag
        exact absurd hlag (Nat.lt_irrefl 0)
  · -- Taken: the position is the packet, and the next number is ahead of it.
    rw [decide_eq_false hlag]
    have hzero : lag last x.stream x.seq = 0 := by omega
    have hahead : (x.seq - (x.seq + 1)).toNat = 2 ^ 32 - 1 := by
      have hone : x.seq - (x.seq + 1) = 0 - 1 := by grind
      rw [hone]
      rfl
    rw [hzero, if_neg Bool.false_ne_true, lag, hahead]
    simp

end StreamPosition

/-! ## A stream that counts on -/

/-- These packets are of one stream and count on from a number, going round in 32 bits. -/
def CountsFrom (stream seq : UInt32) (xs : List Packet) : Prop :=
  ∀ i x, xs[i]? = some x → x.stream = stream ∧ x.seq = seq + UInt32.ofNat i

namespace CountsFrom

variable {stream seq : UInt32} {x : Packet} {xs ys : List Packet}

theorem head (h : CountsFrom stream seq (x :: xs)) : x.stream = stream ∧ x.seq = seq := by
  obtain ⟨hstream, hseq⟩ := h 0 x rfl
  exact ⟨hstream, hseq.trans (UInt32.add_zero seq)⟩

theorem tail (h : CountsFrom stream seq (x :: xs)) : CountsFrom stream (seq + 1) xs := by
  intro i y hy
  obtain ⟨hstream, hseq⟩ := h (i + 1) y hy
  exact ⟨hstream, hseq.trans (Packetizer.seq_succ_add seq i).symm⟩

theorem of_append (h : CountsFrom stream seq (xs ++ ys)) : CountsFrom stream seq xs := by
  intro i y hy
  refine h i y ?_
  rw [List.getElem?_append_left (List.getElem?_eq_some_iff.mp hy).1]
  exact hy

/-- The lag after some packets. -/
theorem lag_foldl (h : CountsFrom stream seq xs) (last : Option StreamPosition) :
    StreamPosition.lag (xs.foldl StreamPosition.after last) stream
        (seq + UInt32.ofNat xs.length) =
      StreamPosition.lag last stream seq - xs.length := by
  induction xs generalizing seq last with
  | nil =>
    have hzero : seq + UInt32.ofNat 0 = seq := UInt32.add_zero seq
    rw [List.foldl_nil, List.length_nil, hzero, Nat.sub_zero]
  | cons x xs ih =>
    obtain ⟨rfl, rfl⟩ := h.head
    rw [List.foldl_cons, List.length_cons, ← Packetizer.seq_succ_add, ih h.tail,
      StreamPosition.lag_after]
    omega

/-- All packets are taken but the first ones. -/
theorem newer_eq_drop (h : CountsFrom stream seq xs) (last : Option StreamPosition) :
    StreamPosition.newer last xs = xs.drop (StreamPosition.lag last stream seq) := by
  induction xs generalizing seq last with
  | nil => rw [StreamPosition.newer, List.drop_nil]
  | cons x xs ih =>
    obtain ⟨rfl, rfl⟩ := h.head
    have hnext := ih h.tail (StreamPosition.after last x)
    rw [StreamPosition.lag_after] at hnext
    rw [StreamPosition.newer, StreamPosition.isStale_eq_lag]
    by_cases hlag : 0 < StreamPosition.lag last x.stream x.seq
    · -- The first packet is dropped, and one less of the rest.
      have hsame : StreamPosition.after last x = last := by
        rw [StreamPosition.after, StreamPosition.isStale_eq_lag, decide_eq_true hlag, if_pos rfl]
      rw [hsame] at hnext
      obtain ⟨k, hk⟩ := Nat.exists_eq_add_one.mpr hlag
      rw [decide_eq_true hlag, if_pos rfl, hnext, hk, List.drop_succ_cons, Nat.add_sub_cancel]
    · -- From here on nothing is dropped.
      have hzero : StreamPosition.lag last x.stream x.seq = 0 := by omega
      rw [hzero, List.drop_zero] at hnext
      rw [decide_eq_false hlag, if_neg Bool.false_ne_true, hnext, hzero, List.drop_zero]

end CountsFrom

namespace Playout

/-- Whatever a slot has accepted last, if anything, let packets of a stream arrive on it that count on
from any number, among packets of other slots. At most the first 64 of them are dropped, and none if
the stream is not that of the last packet; every one after these is taken. -/
theorem accept_of_countsFrom (p : Playout) (slot : Slot) (stream seq : UInt32) :
    let dropped := StreamPosition.lag (p.positions.get? slot) stream seq
    dropped ≤ 64 ∧
    ((∀ last, p.positions.get? slot = some last → last.stream ≠ stream) → dropped = 0) ∧
    (∀ before x, CountsFrom stream seq (packetsOn slot before ++ [x]) →
      (p.acceptAll before).accept slot x =
        if (packetsOn slot before).length < dropped then p.acceptAll before
        else (p.acceptAll before).took slot x) ∧
    ∀ inbox, CountsFrom stream seq (packetsOn slot inbox) →
      p.acceptsOn slot inbox = (packetsOn slot inbox).drop dropped := by
  intro dropped
  refine ⟨StreamPosition.lag_le _ _ _, fun h => StreamPosition.lag_of_stream_ne h seq, ?_, ?_⟩
  · intro before x hcounts
    -- How many packets came before it says the number of the packet.
    obtain ⟨rfl, hseq⟩ := hcounts (packetsOn slot before).length x List.getElem?_concat_length
    rw [accept_eq, position_acceptAll, StreamPosition.isStale_eq_lag, hseq,
      hcounts.of_append.lag_foldl]
    by_cases hfirst : (packetsOn slot before).length < dropped
    · rw [if_pos hfirst, decide_eq_true (Nat.sub_pos_of_lt hfirst), if_pos rfl]
    · rw [if_neg hfirst, decide_eq_false (by omega), if_neg Bool.false_ne_true]
  · intro inbox hcounts
    rw [acceptsOn_eq_newer, hcounts.newer_eq_drop]

/-- A slot has accepted number 2 when its sender goes back by 63 numbers, to before the numbers went
round: 64 packets are dropped, and the next ones are taken. -/
theorem accept_of_countsFrom_63_behind :
    let p : Playout := { prebuffer := 2, capacity := 1002, positions := .insert .empty ⟨0⟩ ⟨9, 2⟩ }
    let packet (i : Nat) : Packet := ⟨.source, 9, 4294967235 + UInt32.ofNat i, []⟩
    let inbox : List (Slot × Packet) := ((List.range 66).map packet).map (⟨0⟩, ·)
    CountsFrom 9 4294967235 (packetsOn ⟨0⟩ inbox) ∧
      (p.acceptsOn ⟨0⟩ inbox).map (·.seq) = [3, 4] := by
  intro p packet inbox
  have hpackets : packetsOn ⟨0⟩ inbox = (List.range 66).map packet := packetsOn_map _ _
  have hcounts : CountsFrom 9 4294967235 (packetsOn ⟨0⟩ inbox) := by
    intro i x hx
    rw [hpackets, List.getElem?_map, Option.map_eq_some_iff] at hx
    obtain ⟨j, hj, rfl⟩ := hx
    obtain ⟨-, rfl⟩ := List.getElem?_eq_some_iff.mp hj
    rw [List.getElem_range]
    exact ⟨rfl, rfl⟩
  obtain ⟨-, -, -, hall⟩ := accept_of_countsFrom p ⟨0⟩ 9 4294967235
  rw [hall inbox hcounts, hpackets]
  exact ⟨hcounts, by decide⟩

end Playout
end AudioLink
