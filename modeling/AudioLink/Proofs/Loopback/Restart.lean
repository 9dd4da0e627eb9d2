import AudioLink.Proofs.Loopback.Playback

/-
Late packets of a sender that has been started again.

A slot remembers the packet that it accepted last, whatever stream that is of, and no other. So a
packet that comes late, or as a second copy, is told by this packet alone. It is refused as long as
the last packet of its own stream is the last one of the slot; once a packet of another stream has
been accepted, nothing is left of the stream before, and what comes late of it is played again.

The packets that a slot accepts are written down beside a run. What carries the proof is that the
position of the slot is always that of the last of them.
-/
set_option autoImplicit false

namespace AudioLink

/-! ## Stale numbers -/

namespace StreamPosition

/-- The position of a slot that has accepted a packet. -/
def of (x : Packet) : StreamPosition := ⟨x.stream, x.seq⟩

/-- Stale are the packets of the same stream with the same number or one of the 63 before it. -/
theorem isStale_iff (last : StreamPosition) (x : Packet) :
    last.isStale x = true ↔
      x.stream = last.stream ∧ ∃ k ≤ 63, x.seq = last.seq - UInt32.ofNat k := by
  have hlast := last.seq.toNat_lt
  have hx := x.seq.toNat_lt
  rw [isStale, ahead, toInt_toInt32, UInt32.toNat_sub, resyncGap]
  simp only [Bool.and_eq_true, decide_eq_true_eq]
  constructor
  · rintro ⟨⟨hstream, hbehind⟩, hwindow⟩
    refine ⟨hstream.symm, (last.seq - x.seq).toNat, ?_, ?_⟩
    · rw [UInt32.toNat_sub]
      split at hbehind <;> split at hwindow <;> omega
    · rw [UInt32.ofNat_toNat]
      grind
  · rintro ⟨hstream, k, hk, hseq⟩
    have hnat : x.seq.toNat = (2 ^ 32 - k + last.seq.toNat) % 2 ^ 32 := by
      rw [hseq, UInt32.toNat_sub, UInt32.toNat_ofNat', Nat.mod_eq_of_lt (by omega : k < 2 ^ 32)]
    refine ⟨⟨hstream.symm, ?_⟩, ?_⟩ <;> split <;> omega

end StreamPosition

namespace Playout

/-! ## What a slot accepts -/

/-- The packets of a slot that are accepted, of several that come one after the other. -/
def acceptsOn (slot : Slot) : Playout → List (Slot × Packet) → List Packet
  | _, [] => []
  | p, x :: rest =>
    (if x.1 = slot ∧ p.accepts x.1 x.2 then [x.2] else []) ++ acceptsOn slot (p.accept x.1 x.2) rest

/-- The packets of a slot that are accepted when the inbox is emptied. -/
def waitingOn (slot : Slot) (p : Playout) : List Packet :=
  acceptsOn slot { p with inbox := [] } p.inbox

/-- The packets that a slot has accepted after an event, if it accepted `past` before. With a slot
that is taken down this starts again. -/
def acceptedAfter (slot : Slot) (p : Playout) (past : List Packet) : Event → List Packet
  | .arrival _ _ => past
  | .read _ => past ++ p.waitingOn slot
  | .unlink other => if other = slot then [] else past ++ p.waitingOn slot

/-- The packets that a slot accepts in a run, from the last time on that it was taken down. Those
that wait in the end count if they are going to be accepted. -/
def acceptedOn (slot : Slot) : Playout → List Packet → List Event → List Packet
  | p, past, [] => past ++ p.waitingOn slot
  | p, past, e :: events => acceptedOn slot (p.after e) (p.acceptedAfter slot past e) events

/-- The position of the slot is that of the last of these packets. -/
def Remembers (p : Playout) (slot : Slot) (past : List Packet) : Prop :=
  ∀ x, past.getLast? = some x → p.positions.get? slot = some (.of x)

namespace Remembers

variable {p : Playout} {slot : Slot} {past : List Packet}

theorem nil (p : Playout) (slot : Slot) : p.Remembers slot [] := nofun

theorem of_positions {p' : Playout} (hp : p.Remembers slot past)
    (hpositions : p'.positions.get? slot = p.positions.get? slot) : p'.Remembers slot past := by
  intro x hx
  rw [hpositions]
  exact hp x hx

theorem accept (hp : p.Remembers slot past) (x : Slot × Packet) :
    (p.accept x.1 x.2).Remembers slot
      (past ++ if x.1 = slot ∧ p.accepts x.1 x.2 then [x.2] else []) := by
  by_cases hslot : x.1 = slot
  · cases haccepts : p.accepts x.1 x.2 with
    | true =>
      rw [if_pos ⟨hslot, rfl⟩, accept_of_accepts haccepts]
      intro y hy
      rw [List.getLast?_concat] at hy
      rw [← Option.some.inj hy, ← hslot]
      exact Table.get?_insert_self _ _ _
    | false =>
      rw [if_neg (fun h => Bool.false_ne_true h.2), List.append_nil, accept_of_not_accepts haccepts]
      exact hp
  · rw [if_neg (fun h => hslot h.1), List.append_nil]
    exact hp.of_positions (position_accept_of_ne (Ne.symm hslot) p x.2)

theorem acceptsOn (hp : p.Remembers slot past) (inbox : List (Slot × Packet)) :
    (inbox.foldl (fun p x => p.accept x.1 x.2) p).Remembers slot
      (past ++ p.acceptsOn slot inbox) := by
  -- What was accepted before grows along the inbox, so it is any.
  induction inbox generalizing p past with
  | nil =>
    rw [Playout.acceptsOn, List.append_nil]
    exact hp
  | cons x inbox ih =>
    rw [List.foldl_cons, Playout.acceptsOn, ← List.append_assoc]
    exact ih (hp.accept x)

theorem drain (hp : p.Remembers slot past) : p.drain.Remembers slot (past ++ p.waitingOn slot) := by
  have hempty : ({ p with inbox := [] } : Playout).Remembers slot past := hp.of_positions rfl
  exact hempty.acceptsOn p.inbox

theorem after (hp : p.Remembers slot past) (e : Event) :
    (p.after e).Remembers slot (p.acceptedAfter slot past e) := by
  cases e with
  | arrival other x =>
    refine hp.of_positions ?_
    rw [Playout.after, deliver]
    split <;> rfl
  | read n =>
    obtain ⟨-, hpositions, -⟩ := p.drain.play_fields n
    exact hp.drain.of_positions (congrArg (Table.get? · slot) hpositions)
  | unlink other =>
    rw [acceptedAfter]
    by_cases hslot : other = slot
    · rw [if_pos hslot]
      exact .nil _ _
    · rw [if_neg hslot]
      exact hp.drain.of_positions (Table.get?_erase_of_ne _ (Ne.symm hslot))

/-- A slot remembers the last packet that it has accepted in any run. -/
theorem acceptedOn (hp : p.Remembers slot past) (events : List Event) :
    (p.afterAll events).drain.Remembers slot (p.acceptedOn slot past events) := by
  induction events generalizing p past with
  | nil => exact hp.drain
  | cons e events ih => exact ih (hp.after e)

end Remembers

/-! ## Late packets -/

/-- A packet that arrives while there is room in the inbox is looked at after those that wait. -/
theorem drain_deliver {p : Playout} (hroom : p.inbox.length < inboxCapacity) (slot : Slot)
    (x : Packet) : (p.deliver slot x).drain = p.drain.accept slot x := by
  rw [deliver, if_pos hroom]
  exact List.foldl_append

/-- In any run of a receiver, let `a` be the last packet of its stream that a slot has accepted, and
`back` what the slot has accepted after it. Then a packet `x` of the stream of `a` comes late, with
the number of `a` or one of the 63 before it. If the slot has accepted nothing after `a`, then `x` is
dropped. If it has, which can only be packets of other streams, then the samples of `x` are queued,
whether they have been played before or not. -/
theorem late_packet_of_other_stream (p₀ : Playout) (events : List Event) (slot : Slot)
    (front back : List Packet) (a x : Packet) (k : Nat)
    (haccepted : p₀.acceptedOn slot [] events = front ++ a :: back)
    (hback : ∀ y ∈ back, y.stream ≠ a.stream)
    (hstream : x.stream = a.stream) (hseq : x.seq = a.seq - UInt32.ofNat k) (hk : k ≤ 63)
    (hroom : (p₀.afterAll events).inbox.length < inboxCapacity) :
    let p := (p₀.afterAll events).drain
    ((p₀.afterAll events).after (.arrival slot x)).drain =
      if back = [] then p
      else { p with
        positions := p.positions.insert slot (.of x)
        queue := (p.queue ++ x.samples).drop (p.excess x.samples) } := by
  have hremembers := (Remembers.nil p₀ slot).acceptedOn events
  rw [haccepted] at hremembers
  rw [after, drain_deliver hroom]
  generalize (p₀.afterAll events).drain = p at hremembers
  dsimp only
  cases back with
  | nil =>
    have hposition : p.positions.get? slot = some (.of a) := hremembers a List.getLast?_concat
    have hstale : (StreamPosition.of a).isStale x = true :=
      (StreamPosition.isStale_iff _ _).mpr ⟨hstream, k, hk, hseq⟩
    rw [if_pos rfl]
    refine accept_of_not_accepts ?_
    rw [accepts_eq, hposition, Option.any_some, hstale]
    rfl
  | cons first rest =>
    -- The position is that of a packet of another stream, with whose numbers none is compared.
    obtain ⟨b, hb⟩ : ∃ b, (first :: rest).getLast? = some b :=
      Option.isSome_iff_exists.mp (List.getLast?_isSome.mpr (List.cons_ne_nil _ _))
    have hlast : (front ++ a :: first :: rest).getLast? = some b := by
      rw [List.getLast?_append, List.getLast?_cons_cons, hb]
      rfl
    have hother : b.stream ≠ a.stream := hback b (List.mem_of_getLast? hb)
    have hnew : (StreamPosition.of b).isStale x = false := by
      refine Bool.eq_false_iff.mpr fun hstale => ?_
      obtain ⟨hsame, -⟩ := (StreamPosition.isStale_iff _ _).mp hstale
      exact hother (hsame.symm.trans hstream)
    rw [if_neg (List.cons_ne_nil _ _)]
    refine accept_of_accepts ?_
    rw [accepts_eq, hremembers b hlast, Option.any_some, hnew]
    rfl

/-- Number 5 of stream 1 has been accepted, then number 0 of stream 2, when number 4 of stream 1 comes.
-/
theorem late_packet_of_other_stream_four :
    let p₀ : Playout := { prebuffer := 2, capacity := 1002 }
    let a : Packet := ⟨.source, 1, 5, [7, 7]⟩
    let b : Packet := ⟨.source, 2, 0, [8, 8]⟩
    let x : Packet := ⟨.source, 1, 4, [6, 6]⟩
    let events : List Event := [.arrival ⟨0⟩ a, .read 2, .arrival ⟨0⟩ b]
    p₀.acceptedOn ⟨0⟩ [] events = [a, b] ∧
      ((p₀.afterAll events).after (.arrival ⟨0⟩ x)).drain.queue = [8, 8, 6, 6] := by
  intro p₀ a b x events
  refine ⟨by decide, ?_⟩
  rw [late_packet_of_other_stream p₀ events ⟨0⟩ [] [b] a x 1 (by decide) (by decide) rfl (by decide)
    (by decide) (by decide)]
  decide

end Playout

namespace Loopback

/-- A sender sends a packet and is started again, and sends another packet. Then the repair copy of the
first packet comes. -/
def restartedSender : List Happening := [
  .request (.contextOpen {}),
  .request (.peerOpen ⟨1⟩ (.receiver {
    frameEncoding := .new 1000 .mono, targetLatency := .ofMillis 2 })),
  .request (.bind ⟨2⟩ ⟨0⟩ .audioSource ⟨some .rtp, "127.0.0.1", 0, ""⟩),
  .machine fun m => { m with network := { m.network with waiting := [
    (⟨0⟩, Packet.encode ⟨.source, 1, 5, [7, 7]⟩),
    (⟨0⟩, Packet.encode ⟨.source, 2, 0, [8, 8]⟩),
    (⟨0⟩, Packet.encode ⟨.repair, 1, 5, [7, 7]⟩)] } }]

/-- The packet that had been accepted before the restart is played a second time. -/
theorem played_twice_after_restart :
    let machine : Machine := { host := .selfContained, random := fun _ => 0 }
    (engine (.read ⟨2⟩ 8) (({ machine } : Site).afterAll restartedSender)).1 =
      .ok [7, 7, 8, 8, 7, 7, 0, 0] := by
  decide +kernel

end Loopback
end AudioLink
