import AudioLink.Proofs.Loopback.Restart

/-
Which packets of a stream a slot lets through.

The numbers of packets go round in 32 bits, and a receiver sees nothing else of them. A sender counts
on without end, so each number stands for an integer. As long as a packet is less than 64 behind the
highest integer that has arrived, and less than half the way round ahead of it, what is let through
does not depend on the numbers going round: it is the packets with an integer higher than every one
before. What arrives on other slots in between does not matter, because the filter of a slot goes by
the packets of this slot alone. The proof carries one fact along the arrivals, that the position of
the slot stands for the highest integer so far.
-/
set_option autoImplicit false

namespace AudioLink

/-! ## Packets of one slot among others -/

namespace Playout

/-- The receiver after it has taken a packet of a slot. -/
def took (p : Playout) (slot : Slot) (x : Packet) : Playout :=
  { p with
    positions := p.positions.insert slot (.of x)
    queue := (p.queue ++ x.samples).drop (p.excess x.samples) }

/-- Packets that all come on one slot. -/
theorem packetsOn_map (slot : Slot) (xs : List Packet) :
    packetsOn slot (xs.map (slot, ·)) = xs := by
  induction xs with
  | nil => rfl
  | cons x xs ih =>
    have hx : ((slot, x) : Slot × Packet).1 = slot := rfl
    rw [List.map_cons, packetsOn_cons_of_eq hx, ih]

theorem accept_eq (p : Playout) (slot : Slot) (x : Packet) :
    p.accept slot x =
      if (p.positions.get? slot).any (·.isStale x) then p else p.took slot x := by
  cases hstale : (p.positions.get? slot).any (·.isStale x) with
  | true => exact accept_of_not_accepts (by rw [accepts_eq, hstale]; rfl)
  | false => exact accept_of_accepts (by rw [accepts_eq, hstale]; rfl)

/-- What is taken on a slot goes by the packets of this slot. -/
theorem acceptsOn_eq_newer (p : Playout) (slot : Slot) (inbox : List (Slot × Packet)) :
    p.acceptsOn slot inbox =
      StreamPosition.newer (p.positions.get? slot) (packetsOn slot inbox) := by
  induction inbox generalizing p with
  | nil => rfl
  | cons x inbox ih =>
    rw [acceptsOn, ih]
    by_cases hslot : x.1 = slot
    · rw [packetsOn_cons_of_eq hslot, StreamPosition.newer, hslot, position_accept, accepts_eq]
      cases hstale : (p.positions.get? slot).any (·.isStale x.2) with
      | true =>
        have hsame : StreamPosition.after (p.positions.get? slot) x.2 = p.positions.get? slot :=
          if_pos hstale
        simp [hsame]
      | false => simp
    · rw [if_neg fun h => hslot h.1, packetsOn_cons_of_ne hslot,
        position_accept_of_ne (Ne.symm hslot), List.nil_append]

end Playout

/-! ## Numbers that stand for integers -/

namespace StreamPosition

theorem toNat_ofInt (n : Int) : ((UInt32.ofInt n).toNat : Int) = n % 2 ^ 32 := by
  rw [UInt32.ofInt, UInt32.toNat_ofNat']
  omega

/-- The distance of two numbers that go round is that of the integers that they stand for, as long as
it is less than half the way round. -/
theorem ahead_ofInt (stream : UInt32) {m n : Int} (hbehind : m - 2 ^ 31 ≤ n)
    (hahead : n < m + 2 ^ 31) :
    (⟨stream, UInt32.ofInt m⟩ : StreamPosition).ahead (UInt32.ofInt n) = n - m := by
  have hm := toNat_ofInt m
  have hn := toNat_ofInt n
  rw [ahead, toInt_toInt32, UInt32.toNat_sub]
  dsimp only
  split <;> omega

/-- Within these bounds stale means not higher. -/
theorem isStale_ofInt {x : Packet} {m n : Int} (hseq : x.seq = UInt32.ofInt n)
    (hbehind : m - 64 < n) (hahead : n < m + 2 ^ 31) :
    (⟨x.stream, UInt32.ofInt m⟩ : StreamPosition).isStale x = decide (n ≤ m) := by
  rw [isStale, hseq, ahead_ofInt _ (by omega) hahead, resyncGap, decide_eq_true rfl, Bool.true_and,
    ← Bool.decide_and, decide_eq_decide]
  omega

end StreamPosition

/-! ## Arrivals -/

/-- A packet that arrives, and the integer that its number stands for. -/
structure Arrival where
  packet : Packet
  /-- How far the sender had counted. -/
  number : Int

namespace Arrival

/-- What arrives is of one stream, and each number stands for an integer less than 64 below the highest
one that has arrived `earlier`, and less than half the way round above it. -/
def InWindow (stream : UInt32) : List Int → List Arrival → Prop
  | _, [] => True
  | earlier, a :: rest =>
    (a.packet.stream = stream ∧ a.packet.seq = UInt32.ofInt a.number ∧
      ∀ m ∈ earlier.max?, m - 64 < a.number ∧ a.number < m + 2 ^ 31) ∧
    InWindow stream (earlier ++ [a.number]) rest

instance InWindow.decidable (stream : UInt32) : (earlier : List Int) → (arrivals : List Arrival) →
    Decidable (InWindow stream earlier arrivals)
  | _, [] => inferInstanceAs (Decidable True)
  | earlier, a :: rest =>
    have := InWindow.decidable stream (earlier ++ [a.number]) rest
    inferInstanceAs (Decidable (_ ∧ _))

/-- The arrivals that are higher than every one before them. -/
def newMaxima : List Int → List Arrival → List Arrival
  | _, [] => []
  | earlier, a :: rest =>
    if ∀ n ∈ earlier, n < a.number then a :: newMaxima (earlier ++ [a.number]) rest
    else newMaxima (earlier ++ [a.number]) rest

variable {stream : UInt32} {earlier : List Int} {a : Arrival} {front back arrivals : List Arrival}

/-- What arrives last is judged by all that has arrived before. -/
theorem InWindow.of_append (h : InWindow stream earlier (front ++ back)) :
    InWindow stream earlier front ∧ InWindow stream (earlier ++ front.map (·.number)) back := by
  induction front generalizing earlier with
  | nil => exact ⟨trivial, by simpa using h⟩
  | cons a front ih =>
    obtain ⟨ha, hrest⟩ := h
    obtain ⟨hfront, hback⟩ := ih hrest
    rw [List.append_assoc, List.singleton_append] at hback
    exact ⟨⟨ha, hfront⟩, hback⟩

/-! ### The highest so far -/

theorem max?_concat (l : List Int) (n : Int) :
    (l ++ [n]).max? = some (l.max?.elim n (max · n)) := by
  rw [List.max?_eq_some_iff]
  cases hl : l.max? with
  | none =>
    rw [List.max?_eq_none_iff.mp hl]
    simp
  | some m =>
    obtain ⟨hmem, hle⟩ := List.max?_eq_some_iff.mp hl
    simp only [Option.elim_some, List.mem_append, List.mem_singleton]
    refine ⟨?_, fun b hb => ?_⟩
    · rcases Int.le_total m n with h | h
      · exact .inr (Int.max_eq_right h)
      · rw [Int.max_eq_left h]
        exact .inl hmem
    · rcases hb with hb | rfl
      · have := hle b hb
        omega
      · exact Int.le_max_right m b

/-- Higher than every number is higher than the highest. -/
theorem forall_lt_iff {l : List Int} {m n : Int} (hm : l.max? = some m) :
    (∀ k ∈ l, k < n) ↔ m < n := by
  obtain ⟨hmem, hle⟩ := List.max?_eq_some_iff.mp hm
  constructor
  · intro h
    exact h m hmem
  · intro h k hk
    exact Int.lt_of_le_of_lt (hle k hk) h

/-! ### What the new maxima are -/

theorem mem_newMaxima_gt (ha : a ∈ newMaxima earlier arrivals) : ∀ n ∈ earlier, n < a.number := by
  induction arrivals generalizing earlier with
  | nil => exact absurd ha List.not_mem_nil
  | cons b arrivals ih =>
    rw [newMaxima] at ha
    have hrest (h : a ∈ newMaxima (earlier ++ [b.number]) arrivals) : ∀ n ∈ earlier, n < a.number :=
      fun n hn => ih h n (List.mem_append_left _ hn)
    by_cases hhigher : ∀ n ∈ earlier, n < b.number
    · rw [if_pos hhigher] at ha
      rcases List.mem_cons.mp ha with rfl | ha
      · exact hhigher
      · exact hrest ha
    · rw [if_neg hhigher] at ha
      exact hrest ha

/-- New maxima rise. -/
theorem pairwise_newMaxima (earlier : List Int) (arrivals : List Arrival) :
    ((newMaxima earlier arrivals).map (·.number)).Pairwise (· < ·) := by
  induction arrivals generalizing earlier with
  | nil => exact .nil
  | cons a arrivals ih =>
    rw [newMaxima]
    split
    · rw [List.map_cons, List.pairwise_cons]
      refine ⟨fun n hn => ?_, ih _⟩
      obtain ⟨b, hb, rfl⟩ := List.mem_map.mp hn
      exact mem_newMaxima_gt hb a.number (by simp)
    · exact ih _

/-- What nothing higher has come before is among the new maxima, or another copy of it is. -/
theorem mem_newMaxima_of_not_overtaken
    (hfirst : ∀ n ∈ earlier ++ front.map (·.number), n ≤ a.number) :
    a.number ∈ earlier ∨ a.number ∈ (newMaxima earlier (front ++ a :: back)).map (·.number) := by
  -- What is in front joins what is earlier, so the first case is not empty in general.
  induction front generalizing earlier with
  | nil =>
    by_cases hmem : a.number ∈ earlier
    · exact .inl hmem
    · have hhigher : ∀ n ∈ earlier, n < a.number := by
        intro n hn
        have hle := hfirst n (List.mem_append_left _ hn)
        have hne : n ≠ a.number := fun h => hmem (h ▸ hn)
        omega
      rw [List.nil_append, newMaxima, if_pos hhigher]
      exact .inr (by simp)
  | cons b front ih =>
    have hrest : ∀ n ∈ earlier ++ [b.number] ++ front.map (·.number), n ≤ a.number := by
      rw [List.append_assoc]
      exact hfirst
    rw [List.cons_append, newMaxima]
    rcases ih hrest with hmem | hmem
    · rcases List.mem_append.mp hmem with hmem | hmem
      · exact .inl hmem
      · -- It is a copy of the first one, which is new if it was not there earlier.
        rw [List.mem_singleton] at hmem
        by_cases hearlier : a.number ∈ earlier
        · exact .inl hearlier
        · have hhigher : ∀ n ∈ earlier, n < b.number := by
            intro n hn
            have hle := hfirst n (List.mem_append_left _ hn)
            have hne : n ≠ a.number := fun h => hearlier (h ▸ hn)
            omega
          rw [if_pos hhigher, List.map_cons, hmem]
          exact .inr List.mem_cons_self
    · right
      split
      · exact List.mem_cons_of_mem _ hmem
      · exact hmem

end Arrival

/-! ## The filter follows the highest -/

namespace Arrival

/-- The position that stands for the highest of these integers. -/
def highest (stream : UInt32) (numbers : List Int) : Option StreamPosition :=
  numbers.max?.map fun m => ⟨stream, UInt32.ofInt m⟩

variable {stream : UInt32} {earlier : List Int} {a : Arrival} {front arrivals : List Arrival}

/-- A packet is stale if it is not higher than every one before. -/
theorem isStale_highest (hstream : a.packet.stream = stream)
    (hseq : a.packet.seq = UInt32.ofInt a.number)
    (hwindow : ∀ m ∈ earlier.max?, m - 64 < a.number ∧ a.number < m + 2 ^ 31) :
    (highest stream earlier).any (·.isStale a.packet) =
      !decide (∀ n ∈ earlier, n < a.number) := by
  rw [highest]
  cases hm : earlier.max? with
  | none =>
    -- Nothing has arrived, and no packet is stale.
    rw [List.max?_eq_none_iff.mp hm]
    simp
  | some m =>
    obtain ⟨hbehind, hahead⟩ := hwindow m hm
    rw [Option.map_some, Option.any_some, ← hstream,
      StreamPosition.isStale_ofInt hseq hbehind hahead, ← decide_not, decide_eq_decide,
      forall_lt_iff hm]
    omega

/-- The position goes on standing for the highest. -/
theorem after_highest (hstream : a.packet.stream = stream)
    (hseq : a.packet.seq = UInt32.ofInt a.number)
    (hwindow : ∀ m ∈ earlier.max?, m - 64 < a.number ∧ a.number < m + 2 ^ 31) :
    StreamPosition.after (highest stream earlier) a.packet =
      highest stream (earlier ++ [a.number]) := by
  rw [StreamPosition.after, isStale_highest hstream hseq hwindow, highest,
    highest, max?_concat, hstream, hseq]
  cases hm : earlier.max? with
  | none =>
    rw [List.max?_eq_none_iff.mp hm]
    simp
  | some m =>
    simp only [forall_lt_iff hm, Option.map_some, Option.elim_some]
    by_cases hhigher : m < a.number
    · simp [hhigher, Int.max_eq_right (Int.le_of_lt hhigher)]
    · simp [hhigher, Int.max_eq_left (Int.not_lt.mp hhigher)]

/-- After all of them as well. -/
theorem foldl_after_highest (hwindow : InWindow stream earlier arrivals) :
    (arrivals.map (·.packet)).foldl StreamPosition.after (highest stream earlier) =
      highest stream (earlier ++ arrivals.map (·.number)) := by
  induction arrivals generalizing earlier with
  | nil => simp
  | cons a arrivals ih =>
    obtain ⟨⟨hstream, hseq, hbounds⟩, hrest⟩ := hwindow
    rw [List.map_cons, List.foldl_cons, after_highest hstream hseq hbounds, ih hrest, List.map_cons,
      List.append_assoc, List.singleton_append]

/-- What the filter lets through are the new maxima. -/
theorem newer_highest (hwindow : InWindow stream earlier arrivals) :
    StreamPosition.newer (highest stream earlier) (arrivals.map (·.packet)) =
      (newMaxima earlier arrivals).map (·.packet) := by
  induction arrivals generalizing earlier with
  | nil => rfl
  | cons a arrivals ih =>
    obtain ⟨⟨hstream, hseq, hbounds⟩, hrest⟩ := hwindow
    -- The position stands for the highest afterwards, whether the packet is taken or not.
    have hafter := after_highest hstream hseq hbounds
    have hstale := isStale_highest hstream hseq hbounds
    rw [List.map_cons, StreamPosition.newer, hstale, newMaxima]
    by_cases hhigher : ∀ n ∈ earlier, n < a.number
    · rw [decide_eq_true hhigher, if_pos hhigher, hafter, ih hrest]
      rfl
    · have hsame : StreamPosition.after (highest stream earlier) a.packet =
          highest stream earlier := by
        rw [StreamPosition.after, hstale, decide_eq_false hhigher]
        rfl
      rw [decide_eq_false hhigher, if_neg hhigher, ← ih hrest, ← hafter, hsame]
      rfl

end Arrival

namespace Playout

open Arrival

/-- Packets of one stream arrive on a slot that has not accepted any, in any order, with copies and with
gaps, among packets of other slots, and each is less than 64 behind the highest before it and less
than half the way round ahead of it. Then a packet is taken if it is higher than every one before it,
and dropped otherwise, and so what is taken in the end is the new maxima. Their numbers rise, so that
none is taken twice, and each number is among them that comes before every higher one. -/
theorem accept_iff_new_maximum (p : Playout) (slot : Slot) (stream : UInt32)
    (arrivals : List Arrival) (hnew : p.positions.get? slot = none)
    (hwindow : InWindow stream [] arrivals) :
    (∀ front a back before, arrivals = front ++ a :: back →
      packetsOn slot before = front.map (·.packet) →
        (p.acceptAll before).accept slot a.packet =
          if ∀ b ∈ front, b.number < a.number then (p.acceptAll before).took slot a.packet
          else p.acceptAll before) ∧
    (∀ inbox, packetsOn slot inbox = arrivals.map (·.packet) →
      p.acceptsOn slot inbox = (newMaxima [] arrivals).map (·.packet)) ∧
    ((newMaxima [] arrivals).map (·.number)).Pairwise (· < ·) ∧
    ∀ front a back, arrivals = front ++ a :: back → (∀ b ∈ front, b.number ≤ a.number) →
      a.number ∈ (newMaxima [] arrivals).map (·.number) := by
  -- A slot that has heard nothing is at the maximum of no arrivals.
  have hstart : p.positions.get? slot = highest stream [] := hnew
  refine ⟨?_, ?_, pairwise_newMaxima [] arrivals, ?_⟩
  · intro front a back before harrivals hbefore
    rw [harrivals] at hwindow
    obtain ⟨hfront, ⟨hstream, hseq, hbounds⟩, -⟩ := hwindow.of_append
    rw [accept_eq, position_acceptAll, hbefore, hstart, foldl_after_highest hfront,
      isStale_highest hstream hseq hbounds, List.nil_append]
    have hiff : (∀ n ∈ front.map (·.number), n < a.number) ↔ ∀ b ∈ front, b.number < a.number := by
      simp
    by_cases hhigher : ∀ b ∈ front, b.number < a.number
    · rw [decide_eq_true (hiff.mpr hhigher), if_pos hhigher]
      rfl
    · rw [decide_eq_false fun h => hhigher (hiff.mp h), if_neg hhigher]
      rfl
  · intro inbox hinbox
    rw [acceptsOn_eq_newer, hinbox, hstart, newer_highest hwindow]
  · intro front a back harrivals hfirst
    rw [harrivals]
    refine (mem_newMaxima_of_not_overtaken fun n hn => ?_).resolve_left List.not_mem_nil
    obtain ⟨b, hb, rfl⟩ := List.mem_map.mp hn
    exact hfirst b hb

/-- Six packets of a stream, of which the numbers go round: one 63 behind, a second copy and one that is
overtaken are dropped. A packet of another slot, with a number that is going to come, is in between. -/
theorem accept_iff_new_maximum_around_the_end :
    let p : Playout := { prebuffer := 2, capacity := 1002 }
    let arrival (n : Int) : Arrival := ⟨⟨.source, 9, UInt32.ofInt n, []⟩, n⟩
    let arrivals := [arrival (2 ^ 32 - 2), arrival (2 ^ 32 - 65), arrival (2 ^ 32 + 1),
      arrival (2 ^ 32 + 1), arrival (2 ^ 32 - 1), arrival (2 ^ 32 + 2 ^ 31)]
    let inbox : List (Slot × Packet) := (⟨1⟩, (arrival (2 ^ 32 + 1)).packet) ::
      arrivals.map fun a => (⟨0⟩, a.packet)
    p.positions.get? ⟨0⟩ = none ∧ InWindow 9 [] arrivals ∧
      (p.acceptsOn ⟨0⟩ inbox).map (·.seq) = [4294967294, 1, 2147483648] := by
  intro p arrival arrivals inbox
  have hwindow : InWindow 9 [] arrivals := by decide +kernel
  obtain ⟨-, hall, -⟩ := accept_iff_new_maximum p ⟨0⟩ 9 arrivals rfl hwindow
  refine ⟨rfl, hwindow, ?_⟩
  rw [hall inbox rfl]
  decide

end Playout
end AudioLink
