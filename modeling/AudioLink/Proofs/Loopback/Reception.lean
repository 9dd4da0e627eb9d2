import AudioLink.Loopback.Transfer
import Mathlib.Algebra.Group.Int.Defs
import Mathlib.Algebra.Group.Nat.Defs

/-
What a receiver makes of what arrives.

Two things are kept apart. The filter decides by numbers alone which packets of a slot are taken;
`StreamPosition.newer` says this of a list of packets, whatever else the receiver does. The queue
holds the samples of the packets that were taken and gives them up from its front. A run of a
receiver is a list of receptions; as long as there is room, what has been played and what is still
queued in the end are in a row what was queued before and what was taken.
-/
set_option autoImplicit false

namespace AudioLink

/-! ## The filter -/

namespace StreamPosition

/-- The position after a packet. -/
def after (last : Option StreamPosition) (x : Packet) : Option StreamPosition :=
  if last.any (·.isStale x) then last else some ⟨x.stream, x.seq⟩

/-- The packets that are taken, of several that come one after the other. -/
def newer (last : Option StreamPosition) : List Packet → List Packet
  | [] => []
  | x :: rest => if last.any (·.isStale x) then newer last rest else x :: newer (after last x) rest

/-- A stale packet is passed over. -/
theorem newer_of_isStale {last : StreamPosition} {x : Packet} (rest : List Packet)
    (hstale : last.isStale x = true) : newer (some last) (x :: rest) = newer (some last) rest := by
  rw [newer, Option.any_some, if_pos hstale]

/-- A packet that is not stale is kept, and the next are measured by it. -/
theorem newer_of_not_isStale {last : Option StreamPosition} {x : Packet} (rest : List Packet)
    (hnew : last.any (·.isStale x) = false) :
    newer last (x :: rest) = x :: newer (some ⟨x.stream, x.seq⟩) rest := by
  rw [newer, hnew, after, hnew]
  rfl

/-- Later packets are measured by the position that the earlier ones leave. -/
theorem newer_append (last : Option StreamPosition) (a b : List Packet) :
    newer last (a ++ b) = newer last a ++ newer (a.foldl after last) b := by
  induction a generalizing last with
  | nil => rfl
  | cons x a ih =>
    rw [List.cons_append, newer, newer, List.foldl_cons]
    by_cases hstale : last.any (·.isStale x) = true
    · have hsame : after last x = last := if_pos hstale
      rw [if_pos hstale, if_pos hstale, ih, hsame]
    · rw [if_neg hstale, if_neg hstale, ih, List.cons_append]

/-! ### Distances -/

/-- A word as a signed number. -/
theorem toInt_toInt32 (x : UInt32) :
    x.toInt32.toInt = if x.toNat < 2 ^ 31 then (x.toNat : Int) else x.toNat - 2 ^ 32 := by
  have hx := x.toNat_lt
  have hbits : x.toInt32.toInt = x.toBitVec.toInt := rfl
  have hnat : x.toBitVec.toNat = x.toNat := rfl
  rw [hbits, BitVec.toInt_eq_toNat_cond, hnat]
  split <;> split <;> omega

/-- The distance of two numbers that go round is that of the numbers that they stand for, as long as
it is less than half the way round. -/
theorem ahead_ofNat (stream base : UInt32) {i j : Nat} (hbehind : i < j + 2 ^ 31)
    (hahead : j < i + 2 ^ 31) :
    (⟨stream, base + UInt32.ofNat i⟩ : StreamPosition).ahead (base + UInt32.ofNat j) = j - i := by
  have hcancel : base + UInt32.ofNat j - (base + UInt32.ofNat i) =
      UInt32.ofNat j - UInt32.ofNat i := by
    grind
  rw [ahead, toInt_toInt32]
  dsimp only
  rw [hcancel, UInt32.toNat_sub, UInt32.toNat_ofNat', UInt32.toNat_ofNat']
  split <;> omega

end StreamPosition

/-! ## The queue -/

namespace Playout

/-- How many samples are dropped for want of room when these are queued. -/
def excess (p : Playout) (samples : Frame) : Nat := (p.queue ++ samples).length - p.capacity

/-- The packets that are taken, of several that come one after the other, each with the number of
samples that are dropped for it. -/
def takes (p : Playout) : List (Slot × Packet) → List (Packet × Nat)
  | [] => []
  | x :: rest =>
    if p.accepts x.1 x.2 then (x.2, p.excess x.2.samples) :: (p.accept x.1 x.2).takes rest
    else p.takes rest

/-- What is taken when the inbox is emptied. -/
def drained (p : Playout) : List (Packet × Nat) := { p with inbox := [] }.takes p.inbox

/-- A packet that is accepted sets the position of its slot and goes to the queue. -/
theorem accept_of_accepts {p : Playout} {slot : Slot} {x : Packet}
    (h : p.accepts slot x = true) :
    p.accept slot x = { p with
      positions := p.positions.insert slot ⟨x.stream, x.seq⟩
      queue := (p.queue ++ x.samples).drop (p.excess x.samples) } := by
  rw [accept, if_pos h]
  rfl

/-- A packet that is not accepted changes nothing. -/
theorem accept_of_not_accepts {p : Playout} {slot : Slot} {x : Packet}
    (h : p.accepts slot x = false) : p.accept slot x = p := by
  rw [accept, if_neg (Bool.eq_false_iff.mp h)]

/-- What is accepted goes by the last position of the slot only. -/
theorem accepts_eq (p : Playout) (slot : Slot) (x : Packet) :
    p.accepts slot x = !(p.positions.get? slot).any (·.isStale x) := rfl

/-- The position of a slot after a packet of this slot. -/
theorem position_accept (p : Playout) (slot : Slot) (x : Packet) :
    (p.accept slot x).positions.get? slot = StreamPosition.after (p.positions.get? slot) x := by
  cases haccepts : p.accepts slot x with
  | true =>
    have hstale : (p.positions.get? slot).any (·.isStale x) = false := by
      rwa [accepts_eq, Bool.not_eq_true'] at haccepts
    rw [accept_of_accepts haccepts, StreamPosition.after, hstale]
    exact Table.get?_insert_self _ _ _
  | false =>
    have hstale : (p.positions.get? slot).any (·.isStale x) = true := by
      rwa [accepts_eq, Bool.not_eq_false'] at haccepts
    rw [accept_of_not_accepts haccepts, StreamPosition.after, if_pos hstale]

/-- A packet does not move the positions of other slots. -/
theorem position_accept_of_ne {slot other : Slot} (hother : slot ≠ other) (p : Playout)
    (x : Packet) : (p.accept other x).positions.get? slot = p.positions.get? slot := by
  cases haccepts : p.accepts other x with
  | true =>
    rw [accept_of_accepts haccepts]
    exact Table.get?_insert_of_ne _ _ hother
  | false => rw [accept_of_not_accepts haccepts]

/-! ### Packets of one slot among others -/

/-- The packets of one slot, of several that come one after the other. -/
def packetsOn (slot : Slot) (inbox : List (Slot × Packet)) : List Packet :=
  (inbox.filter (·.1 = slot)).map (·.2)

/-- Takes or drops each of several packets. -/
def acceptAll (p : Playout) (inbox : List (Slot × Packet)) : Playout :=
  inbox.foldl (fun p x => p.accept x.1 x.2) p

section OneSlot

variable {slot : Slot} {x : Slot × Packet} {inbox : List (Slot × Packet)}

theorem packetsOn_cons_of_eq (h : x.1 = slot) :
    packetsOn slot (x :: inbox) = x.2 :: packetsOn slot inbox := by
  simp [packetsOn, h]

theorem packetsOn_cons_of_ne (h : x.1 ≠ slot) :
    packetsOn slot (x :: inbox) = packetsOn slot inbox := by
  simp [packetsOn, h]

/-- Packets of a slot are picked out batch by batch. -/
theorem packetsOn_append (slot : Slot) (inbox more : List (Slot × Packet)) :
    packetsOn slot (inbox ++ more) = packetsOn slot inbox ++ packetsOn slot more := by
  rw [packetsOn, List.filter_append, List.map_append]
  rfl

/-- The position of a slot goes by the packets of this slot. -/
theorem position_acceptAll (p : Playout) (slot : Slot) (inbox : List (Slot × Packet)) :
    (p.acceptAll inbox).positions.get? slot =
      (packetsOn slot inbox).foldl StreamPosition.after (p.positions.get? slot) := by
  induction inbox generalizing p with
  | nil => rfl
  | cons x inbox ih =>
    refine (ih (p.accept x.1 x.2)).trans ?_
    by_cases hslot : x.1 = slot
    · rw [packetsOn_cons_of_eq hslot, List.foldl_cons, hslot, position_accept]
    · rw [packetsOn_cons_of_ne hslot, position_accept_of_ne (Ne.symm hslot)]

/-- Of packets of one slot, the filter decides which are taken. -/
theorem takes_of_slot (p : Playout) (hslot : ∀ x ∈ inbox, x.1 = slot) :
    (p.takes inbox).map Prod.fst =
      StreamPosition.newer (p.positions.get? slot) (inbox.map Prod.snd) := by
  induction inbox generalizing p with
  | nil => rfl
  | cons x inbox ih =>
    have hrest : ∀ y ∈ inbox, y.1 = slot := fun y hy => hslot y (List.mem_cons_of_mem x hy)
    obtain rfl : x.1 = slot := hslot x List.mem_cons_self
    cases haccepts : p.accepts x.1 x.2 with
    | true =>
      have hnew : (p.positions.get? x.1).any (·.isStale x.2) = false := by
        rwa [accepts_eq, Bool.not_eq_true'] at haccepts
      have hposition : (p.accept x.1 x.2).positions.get? x.1 = some ⟨x.2.stream, x.2.seq⟩ := by
        rw [position_accept, StreamPosition.after, hnew]
        rfl
      rw [takes, if_pos haccepts, List.map_cons, List.map_cons, ih _ hrest, hposition,
        StreamPosition.newer_of_not_isStale _ hnew]
    | false =>
      have hstale : (p.positions.get? x.1).any (·.isStale x.2) = true := by
        rwa [accepts_eq, Bool.not_eq_false'] at haccepts
      rw [takes, if_neg (Bool.eq_false_iff.mp haccepts), List.map_cons, ih _ hrest,
        StreamPosition.newer, if_pos hstale]

/-- The position of a slot after packets that are all on it. -/
theorem position_foldl (p : Playout) (hslot : ∀ x ∈ inbox, x.1 = slot) :
    (inbox.foldl (fun p x => p.accept x.1 x.2) p).positions.get? slot =
      (inbox.map Prod.snd).foldl StreamPosition.after (p.positions.get? slot) := by
  have hall : packetsOn slot inbox = inbox.map Prod.snd := by
    rw [packetsOn, List.filter_eq_self.mpr fun x hx => decide_eq_true (hslot x hx)]
  rw [← hall]
  exact position_acceptAll p slot inbox

end OneSlot

/-- With room for all of them, the samples of the packets that are taken are added to the queue. -/
theorem queue_foldl (p : Playout) (inbox : List (Slot × Packet))
    (hroom : ∀ x ∈ p.takes inbox, x.2 = 0) :
    (inbox.foldl (fun p x => p.accept x.1 x.2) p).queue =
      p.queue ++ (p.takes inbox).flatMap fun x => x.1.samples := by
  induction inbox generalizing p with
  | nil => exact (List.append_nil _).symm
  | cons x inbox ih =>
    rw [List.foldl_cons]
    cases haccepts : p.accepts x.1 x.2 with
    | true =>
      rw [takes, if_pos haccepts] at hroom ⊢
      have hnone : p.excess x.2.samples = 0 := hroom _ List.mem_cons_self
      have hqueue : (p.accept x.1 x.2).queue = p.queue ++ x.2.samples := by
        rw [accept_of_accepts haccepts, hnone]
        rfl
      rw [ih _ fun y hy => hroom y (List.mem_cons_of_mem _ hy), hqueue, List.flatMap_cons,
        List.append_assoc]
    | false =>
      rw [takes, if_neg (Bool.eq_false_iff.mp haccepts)] at hroom ⊢
      rw [accept_of_not_accepts haccepts]
      exact ih p hroom

/-- Accepting packets leaves what waits, and the sizes. -/
theorem foldl_accept_fields (p : Playout) (inbox : List (Slot × Packet)) :
    let p' := inbox.foldl (fun p x => p.accept x.1 x.2) p
    p'.inbox = p.inbox ∧ p'.prebuffer = p.prebuffer ∧ p'.capacity = p.capacity := by
  induction inbox generalizing p with
  | nil => exact ⟨rfl, rfl, rfl⟩
  | cons x inbox ih =>
    have hone : (p.accept x.1 x.2).inbox = p.inbox ∧
        (p.accept x.1 x.2).prebuffer = p.prebuffer ∧
        (p.accept x.1 x.2).capacity = p.capacity := by
      cases haccepts : p.accepts x.1 x.2 with
      | true => rw [accept_of_accepts haccepts]; exact ⟨rfl, rfl, rfl⟩
      | false => rw [accept_of_not_accepts haccepts]; exact ⟨rfl, rfl, rfl⟩
    obtain ⟨hinbox, hprebuffer, hcapacity⟩ := ih (p.accept x.1 x.2)
    exact ⟨hinbox.trans hone.1, hprebuffer.trans hone.2.1, hcapacity.trans hone.2.2⟩

/-- Nothing waits in a receiver that has been drained. -/
theorem inbox_drain (p : Playout) : p.drain.inbox = [] := (foldl_accept_fields _ _).1

/-- An empty inbox is emptied without effect. -/
theorem drain_of_inbox_eq_nil {p : Playout} (hinbox : p.inbox = []) : p.drain = p := by
  cases p
  cases hinbox
  rfl

/-! ### Playing -/

/-- What a frame of `n` samples takes out of the queue. -/
def played (p : Playout) (n : Nat) : Frame := if p.isReady then p.queue.take n else []

/-- What is played comes off the front of the queue, and silence makes up for the rest. -/
theorem play_eq (p : Playout) (n : Nat) :
    (p.play n).1 = p.played n ++ List.replicate (n - (p.played n).length) silence ∧
      p.played n ++ (p.play n).2.queue = p.queue := by
  rw [play, played]
  by_cases hready : p.isReady = true
  · rw [if_pos hready, if_pos hready]
    exact ⟨rfl, List.take_append_drop n p.queue⟩
  · rw [if_neg hready, if_neg hready]
    exact ⟨rfl, rfl⟩

/-- Playing changes the queue only, and whether it plays. -/
theorem play_fields (p : Playout) (n : Nat) :
    (p.play n).2.inbox = p.inbox ∧ (p.play n).2.positions = p.positions ∧
      (p.play n).2.prebuffer = p.prebuffer ∧ (p.play n).2.capacity = p.capacity := by
  rw [play]
  split <;> exact ⟨rfl, rfl, rfl, rfl⟩

/-- Nothing waits in the inbox once a frame has been read. -/
theorem inbox_fill (p : Playout) (n : Nat) : (p.fill n).2.inbox = [] :=
  (p.drain.play_fields n).1.trans p.inbox_drain

end Playout

/-! ## Runs of a receiver -/

/-- What a receiver meets with. -/
inductive Reception where
  /-- A datagram arrives at a socket. -/
  | datagram (socket : SocketId) (bytes : Bytes)
  /-- A frame of this many samples is read. -/
  | read (length : Nat)
  deriving DecidableEq

namespace Loopback

/-- The receiving side of a peer after a reception. -/
def meet (q : PeerState) (p : Playout) : Reception → Playout
  | .datagram socket bytes => receive q p (socket, bytes)
  | .read length => (p.fill length).2

/-- The datagrams of several receptions. -/
def datagrams (receptions : List Reception) : List (SocketId × Bytes) :=
  receptions.filterMap fun
    | .datagram socket bytes => some (socket, bytes)
    | .read _ => none

/-- The packets that are taken in several receptions. What waits in the inbox in the end is taken
with the next frame, and counts. -/
def heard (q : PeerState) : Playout → List Reception → List Packet
  | p, [] => p.drained.map Prod.fst
  | p, .datagram socket bytes :: rest => heard q (receive q p (socket, bytes)) rest
  | p, .read length :: rest => p.drained.map Prod.fst ++ heard q (p.fill length).2 rest

/-- The samples that the frames of several receptions take out of the queue. -/
def playedIn (q : PeerState) : Playout → List Reception → Frame
  | _, [] => []
  | p, .datagram socket bytes :: rest => playedIn q (receive q p (socket, bytes)) rest
  | p, .read length :: rest => p.drain.played length ++ playedIn q (p.fill length).2 rest

/-- Neither the inbox nor the queue is ever too short for what comes. -/
def HasRoom (q : PeerState) : Playout → List Reception → Prop
  | p, [] => ∀ x ∈ p.drained, x.2 = 0
  | p, .datagram socket bytes :: rest =>
    p.inbox.length < Playout.inboxCapacity ∧ HasRoom q (receive q p (socket, bytes)) rest
  | p, .read length :: rest =>
    (∀ x ∈ p.drained, x.2 = 0) ∧ HasRoom q (p.fill length).2 rest

instance HasRoom.decidable (q : PeerState) : (p : Playout) → (receptions : List Reception) →
    Decidable (HasRoom q p receptions)
  | p, [] => inferInstanceAs (Decidable (∀ x ∈ p.drained, x.2 = 0))
  | p, .datagram socket bytes :: rest =>
    have := HasRoom.decidable q (receive q p (socket, bytes)) rest
    inferInstanceAs (Decidable (_ ∧ _))
  | p, .read length :: rest =>
    have := HasRoom.decidable q (p.fill length).2 rest
    inferInstanceAs (Decidable (_ ∧ _))

variable {q : PeerState}

/-- With room for all of them, the samples of the packets that are taken go through the queue, and
nothing else does. -/
theorem playedIn_append_queue (p : Playout) (receptions : List Reception)
    (hroom : HasRoom q p receptions) :
    playedIn q p receptions ++ (receptions.foldl (meet q) p).drain.queue =
      p.queue ++ (heard q p receptions).flatMap Packet.samples := by
  induction receptions generalizing p with
  | nil =>
    rw [heard, List.flatMap_map]
    exact Playout.queue_foldl { p with inbox := [] } p.inbox hroom
  | cons reception receptions ih =>
    cases reception with
    | datagram socket bytes =>
      have hqueue : (receive q p (socket, bytes)).queue = p.queue := by
        unfold receive Playout.deliver
        split
        · split <;> rfl
        · rfl
      rw [playedIn, heard, List.foldl_cons, meet, ih _ hroom.2, hqueue]
    | read length =>
      have hdrain : p.drain.queue = p.queue ++ (p.drained.map Prod.fst).flatMap Packet.samples := by
        rw [List.flatMap_map]
        exact Playout.queue_foldl { p with inbox := [] } p.inbox hroom.1
      have hplay : p.drain.played length ++ (p.fill length).2.queue = p.drain.queue :=
        (p.drain.play_eq length).2
      rw [playedIn, heard, List.foldl_cons, meet, List.append_assoc, ih _ hroom.2,
        ← List.append_assoc, hplay, hdrain, List.flatMap_append, List.append_assoc]

/-- When everything comes to one slot, the filter decides which packets are taken, and it makes no
difference when frames are read. -/
theorem heard_of_slot {slot : Slot} (p : Playout) (receptions : List Reception)
    (arrivals : List Packet) (hinbox : ∀ x ∈ p.inbox, x.1 = slot)
    (hroom : HasRoom q p receptions)
    (harrivals : (datagrams receptions).map (fun d =>
      (q.slotOfSocket? d.1, acceptable? q.channels d.2)) =
        arrivals.map fun x => (some slot, some x)) :
    heard q p receptions =
      StreamPosition.newer (p.positions.get? slot) (p.inbox.map Prod.snd ++ arrivals) := by
  -- What waits in the inbox is heard before what is still to arrive.
  induction receptions generalizing p arrivals with
  | nil =>
    have hnone : arrivals = [] := List.map_eq_nil_iff.mp harrivals.symm
    rw [heard, hnone, List.append_nil]
    exact Playout.takes_of_slot { p with inbox := [] } hinbox
  | cons reception receptions ih =>
    cases reception with
    | datagram socket bytes =>
      obtain ⟨x, arrivals, rfl⟩ : ∃ x rest, arrivals = x :: rest := by
        cases arrivals with
        | nil => exact absurd harrivals (by simp [datagrams])
        | cons x rest => exact ⟨x, rest, rfl⟩
      rw [datagrams, List.filterMap_cons, List.map_cons, List.map_cons, List.cons.injEq,
        Prod.mk.injEq] at harrivals
      obtain ⟨⟨hsocket, hpacket⟩, harrivals⟩ := harrivals
      have hreceive : receive q p (socket, bytes) = { p with inbox := p.inbox ++ [(slot, x)] } := by
        rw [receive]
        simp only [hsocket, hpacket, Playout.deliver, if_pos hroom.1]
      have hinbox' : ∀ y ∈ (receive q p (socket, bytes)).inbox, y.1 = slot := by
        intro y hy
        rw [hreceive] at hy
        rcases List.mem_append.mp hy with hy | hy
        · exact hinbox y hy
        · rw [List.mem_singleton.mp hy]
      rw [heard, ih _ arrivals hinbox' hroom.2 harrivals, hreceive]
      simp only [List.map_append, List.map_cons, List.map_nil, List.append_assoc,
        List.cons_append, List.nil_append]
    | read length =>
      -- A read takes the inbox, so the position is that after all packets in it.
      obtain ⟨-, hpositions, -⟩ := p.drain.play_fields length
      have hinbox' : (p.fill length).2.inbox = [] := p.inbox_fill length
      have hposition : (p.fill length).2.positions.get? slot =
          (p.inbox.map Prod.snd).foldl StreamPosition.after (p.positions.get? slot) := by
        rw [Playout.fill, hpositions]
        exact Playout.position_foldl { p with inbox := [] } hinbox
      have hdrained : p.drained.map Prod.fst =
          StreamPosition.newer (p.positions.get? slot) (p.inbox.map Prod.snd) :=
        Playout.takes_of_slot { p with inbox := [] } hinbox
      have hrest := ih (p.fill length).2 arrivals (by rw [hinbox']; nofun) hroom.2 harrivals
      rw [heard, hrest, hinbox', List.map_nil, List.nil_append, hposition, hdrained,
        StreamPosition.newer_append]

end Loopback
end AudioLink
