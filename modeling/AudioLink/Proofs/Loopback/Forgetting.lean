import AudioLink.Proofs.Loopback.Conservation
import AudioLink.Proofs.Loopback.SequenceFilter
import AudioLink.Proofs.Loopback.SlotRules

/-
Taking down a slot forgets this slot and nothing else.

A receiver keeps the position of a slot in one table and the slot itself in another. Packets of a slot
that still wait when it is taken down would bring its position back later, so they are looked at first
and the position goes after that. What carries this through a run is that a receiver mentions only
slots that its peer has, in its positions and in its inbox. Once a slot is not mentioned any more, what
it accepts goes by what arrives on it from then on, and the first packet is taken whatever it is.
-/
set_option autoImplicit false

namespace AudioLink

/-! ## Slots that a receiver mentions -/

namespace Playout

/-- The receiver has a position of this slot, or a packet of it that waits. -/
def Mentions (p : Playout) (slot : Slot) : Prop :=
  p.positions.get? slot ≠ none ∨ packetsOn slot p.inbox ≠ []

instance (p : Playout) (slot : Slot) : Decidable (p.Mentions slot) :=
  inferInstanceAs (Decidable (_ ∨ _))

/-- A slot that is not mentioned has no position, and none of its packets wait. -/
theorem not_mentions_iff {p : Playout} {slot : Slot} :
    ¬ p.Mentions slot ↔ p.positions.get? slot = none ∧ packetsOn slot p.inbox = [] := by
  rw [Mentions, not_or, Decidable.not_not, Decidable.not_not]

/-- The positions after the inbox has been emptied go by the packets that waited. -/
theorem position_drain (p : Playout) (slot : Slot) :
    p.drain.positions.get? slot =
      (packetsOn slot p.inbox).foldl StreamPosition.after (p.positions.get? slot) :=
  position_acceptAll { p with inbox := [] } slot p.inbox

theorem position_forget_self (p : Playout) (slot : Slot) :
    (p.forget slot).positions.get? slot = none := Table.get?_erase_self _ _

theorem position_forget_of_ne {slot other : Slot} (hother : other ≠ slot) (p : Playout) :
    (p.forget slot).positions.get? other =
      (packetsOn other p.inbox).foldl StreamPosition.after (p.positions.get? other) :=
  (Table.get?_erase_of_ne _ hother).trans (p.position_drain other)

theorem inbox_forget (p : Playout) (slot : Slot) : (p.forget slot).inbox = [] := p.inbox_drain

theorem position_fill (p : Playout) (n : Nat) (slot : Slot) :
    (p.fill n).2.positions.get? slot =
      (packetsOn slot p.inbox).foldl StreamPosition.after (p.positions.get? slot) := by
  rw [fill, (p.drain.play_fields n).2.1, position_drain]

theorem not_mentions_forget (p : Playout) (slot : Slot) : ¬ (p.forget slot).Mentions slot := by
  rw [not_mentions_iff, inbox_forget]
  exact ⟨p.position_forget_self slot, rfl⟩

theorem deliver_eq (p : Playout) (slot : Slot) (x : Packet) :
    p.deliver slot x = { p with
      inbox := p.inbox ++ if p.inbox.length < inboxCapacity then [(slot, x)] else [] } := by
  rw [deliver]
  split
  · rfl
  · rw [List.append_nil]

/-! ## What arrives on a slot -/

/-- The packet of a slot that an event brings, if there is room for it in the inbox. -/
def deliveredBy (slot : Slot) (p : Playout) : Event → List Packet
  | .arrival other x => if other = slot ∧ p.inbox.length < inboxCapacity then [x] else []
  | .read _ | .unlink _ => []

/-- The packets of a slot that arrive while there is room in the inbox. -/
def deliveredOn (slot : Slot) : Playout → List Event → List Packet
  | _, [] => []
  | p, e :: events => p.deliveredBy slot e ++ deliveredOn slot (p.after e) events

section Delivered

variable {slot : Slot}

theorem packetsOn_deliver (p : Playout) (slot other : Slot) (x : Packet) :
    packetsOn slot (p.deliver other x).inbox =
      packetsOn slot p.inbox ++ p.deliveredBy slot (.arrival other x) := by
  rw [deliver_eq, packetsOn_append, deliveredBy]
  by_cases hroom : p.inbox.length < inboxCapacity
  · rw [if_pos hroom]
    by_cases hother : other = slot
    · rw [if_pos ⟨hother, hroom⟩, packetsOn_cons_of_eq hother]
      rfl
    · rw [if_neg fun h => hother h.1, packetsOn_cons_of_ne hother]
      rfl
  · rw [if_neg hroom, if_neg fun h => hroom h.2]
    rfl

/-- Only a packet that arrives can bring a slot in. -/
theorem not_mentions_after {p : Playout} (hp : ¬ p.Mentions slot) {e : Event}
    (he : p.deliveredBy slot e = []) : ¬ (p.after e).Mentions slot := by
  obtain ⟨hposition, hinbox⟩ := not_mentions_iff.mp hp
  rw [not_mentions_iff]
  cases e with
  | arrival other x =>
    rw [after, packetsOn_deliver, he, hinbox]
    exact ⟨by rw [deliver_eq, hposition], rfl⟩
  | read n =>
    rw [after, inbox_fill, position_fill, hinbox, hposition]
    exact ⟨rfl, rfl⟩
  | unlink other =>
    by_cases hother : slot = other
    · exact not_mentions_iff.mp (hother ▸ p.not_mentions_forget slot)
    · rw [after, inbox_forget, position_forget_of_ne hother, hinbox, hposition]
      exact ⟨rfl, rfl⟩

theorem not_mentions_afterAll {p : Playout} (hp : ¬ p.Mentions slot) {events : List Event}
    (hevents : p.deliveredOn slot events = []) : ¬ (p.afterAll events).Mentions slot := by
  induction events generalizing p with
  | nil => exact hp
  | cons e events ih =>
    obtain ⟨he, hrest⟩ := List.append_eq_nil_iff.mp hevents
    exact ih (not_mentions_after hp he) hrest

theorem deliveredOn_eq_nil (p : Playout) {events : List Event}
    (hnone : ∀ x, .arrival slot x ∉ events) : p.deliveredOn slot events = [] := by
  induction events generalizing p with
  | nil => rfl
  | cons e events ih =>
    have he : p.deliveredBy slot e = [] := by
      cases e with
      | arrival other x =>
        refine if_neg fun h => hnone x ?_
        rw [h.1]
        exact List.mem_cons_self
      | read n => rfl
      | unlink other => rfl
    rw [deliveredOn, he, ih _ fun x hx => hnone x (List.mem_cons_of_mem e hx)]
    rfl

/-! ### What a slot accepts -/

theorem waitingOn_eq (p : Playout) (slot : Slot) :
    p.waitingOn slot = StreamPosition.newer (p.positions.get? slot) (packetsOn slot p.inbox) :=
  acceptsOn_eq_newer { p with inbox := [] } slot p.inbox

/-- What has been accepted and what is going to be, of what waits and of what is still to come, is the
same before and after an event. -/
theorem acceptedAfter_append_newer (p : Playout) (past : List Packet) {e : Event}
    (he : e ≠ .unlink slot) (rest : List Packet) :
    p.acceptedAfter slot past e ++ StreamPosition.newer ((p.after e).positions.get? slot)
        (packetsOn slot (p.after e).inbox ++ rest) =
      past ++ StreamPosition.newer (p.positions.get? slot)
        (packetsOn slot p.inbox ++ (p.deliveredBy slot e ++ rest)) := by
  have hnothing : packetsOn slot [] = [] := rfl
  cases e with
  | arrival other x =>
    have hpositions : (p.deliver other x).positions = p.positions := by rw [deliver_eq]
    rw [acceptedAfter, after, packetsOn_deliver, hpositions, List.append_assoc]
  | read n =>
    rw [acceptedAfter, after, inbox_fill, position_fill, waitingOn_eq, hnothing, deliveredBy,
      List.nil_append, StreamPosition.newer_append, List.append_assoc]
  | unlink other =>
    have hother : other ≠ slot := by
      rintro rfl
      exact he rfl
    rw [acceptedAfter, if_neg hother, after, inbox_forget, position_forget_of_ne (Ne.symm hother),
      waitingOn_eq, hnothing, deliveredBy, List.nil_append, StreamPosition.newer_append,
      List.append_assoc]

/-- As long as a slot is not taken down, what it accepts goes by its position and by what waits and
arrives on it, whatever else happens to the receiver. -/
theorem acceptedOn_eq_newer (p : Playout) (past : List Packet) (events : List Event)
    (hkept : .unlink slot ∉ events) :
    p.acceptedOn slot past events = past ++ StreamPosition.newer (p.positions.get? slot)
      (packetsOn slot p.inbox ++ p.deliveredOn slot events) := by
  induction events generalizing p past with
  | nil => rw [acceptedOn, waitingOn_eq, deliveredOn, List.append_nil]
  | cons e events ih =>
    obtain ⟨he, hrest⟩ := List.ne_and_not_mem_of_not_mem_cons hkept
    rw [acceptedOn, ih _ _ hrest, acceptedAfter_append_newer p past (Ne.symm he), deliveredOn]

/-- A slot that has no position takes the first packet, whatever its stream and its number are. -/
theorem head?_newer_none (packets : List Packet) :
    (StreamPosition.newer none packets).head? = packets.head? := by
  cases packets with
  | nil => rfl
  | cons x packets => rfl

/-- What a slot accepts that has no position, and none of whose packets wait. -/
structure StartsOver (p : Playout) (slot : Slot) (events : List Event) : Prop where
  /-- It goes by what arrives, and nothing before counts. -/
  accepted : p.acceptedOn slot [] events = StreamPosition.newer none (p.deliveredOn slot events)
  first : (p.acceptedOn slot [] events).head? = (p.deliveredOn slot events).head?
  /-- The first packet is taken when it comes, whatever its stream and its number are. -/
  next : p.deliveredOn slot events = [] → (p.afterAll events).inbox.length < inboxCapacity →
    ∀ x, ((p.afterAll events).after (.arrival slot x)).drain = (p.afterAll events).drain.took slot x

theorem startsOver {p : Playout} (hp : ¬ p.Mentions slot) {events : List Event}
    (hkept : .unlink slot ∉ events) : p.StartsOver slot events := by
  have haccepted : p.acceptedOn slot [] events =
      StreamPosition.newer none (p.deliveredOn slot events) := by
    obtain ⟨hposition, hinbox⟩ := not_mentions_iff.mp hp
    rw [acceptedOn_eq_newer p [] events hkept, hposition, hinbox]
    rfl
  refine ⟨haccepted, by rw [haccepted, head?_newer_none], fun hnone hroom x => ?_⟩
  obtain ⟨hposition, hinbox⟩ := not_mentions_iff.mp (not_mentions_afterAll hp hnone)
  rw [after, drain_deliver hroom, accept_eq, position_drain, hinbox, hposition]
  rfl

end Delivered

/-! ## What is kept -/

/-- What is too much for a queue may be dropped bit by bit or all at once. -/
theorem drop_excess_append (l r : Frame) (n : Nat) :
    (l.drop (l.length - n) ++ r).drop ((l.drop (l.length - n) ++ r).length - n) =
      (l ++ r).drop ((l ++ r).length - n) := by
  rw [← List.drop_append_of_le_length (Nat.sub_le l.length n), List.drop_drop, List.length_drop,
    List.length_append]
  congr 1
  omega

/-- The queue after several packets holds what it held and what was taken, as far as there is room. -/
theorem queue_acceptAll (p : Playout) (hroom : p.queue.length ≤ p.capacity)
    (inbox : List (Slot × Packet)) :
    (p.acceptAll inbox).queue = (p.queue ++ samplesOf (p.takes inbox)).drop
      ((p.queue ++ samplesOf (p.takes inbox)).length - p.capacity) := by
  induction inbox generalizing p with
  | nil =>
    rw [takes, samplesOf, List.flatMap_nil, List.append_nil, Nat.sub_eq_zero_of_le hroom]
    rfl
  | cons x inbox ih =>
    have hfold : p.acceptAll (x :: inbox) = (p.accept x.1 x.2).acceptAll inbox := rfl
    rw [hfold, takes]
    cases haccepts : p.accepts x.1 x.2 with
    | false =>
      rw [accept_of_not_accepts haccepts]
      exact ih p hroom
    | true =>
      have hqueue : (p.accept x.1 x.2).queue =
          (p.queue ++ x.2.samples).drop ((p.queue ++ x.2.samples).length - p.capacity) := by
        rw [accept_of_accepts haccepts]
        rfl
      have hcapacity : (p.accept x.1 x.2).capacity = p.capacity := by
        rw [accept_of_accepts haccepts]
      have hsamples (n : Nat) (rest : List (Packet × Nat)) :
          samplesOf ((x.2, n) :: rest) = x.2.samples ++ samplesOf rest := List.flatMap_cons
      rw [ih _ ?_, hqueue, hcapacity, drop_excess_append, if_pos rfl, hsamples, List.append_assoc]
      rw [hqueue, hcapacity, List.length_drop]
      omega

/-- What a receiver is after one of its slots has been taken down, if it was `p` with all packets that
had come by then in its inbox. -/
structure Forgot (slot : Slot) (p p' : Playout) : Prop where
  position : p'.positions.get? slot = none
  /-- The positions of other slots go by the packets that waited. -/
  others : ∀ other, other ≠ slot → p'.positions.get? other =
    (packetsOn other p.inbox).foldl StreamPosition.after (p.positions.get? other)
  inbox : p'.inbox = []
  /-- What was queued and what has been taken stays queued, as far as there is room. -/
  queue : p'.queue = (p.queue ++ samplesOf p.drained).drop
    ((p.queue ++ samplesOf p.drained).length - p.capacity)
  playing : p'.playing = p.playing
  /-- The next frame is what it would have been otherwise. -/
  frame : ∀ n, (p'.fill n).1 = (p.fill n).1

theorem forgot (p : Playout) (hroom : p.queue.length ≤ p.capacity) (slot : Slot) :
    Forgot slot p (p.forget slot) where
  position := p.position_forget_self slot
  others other hother := position_forget_of_ne hother p
  inbox := p.inbox_forget slot
  queue := queue_acceptAll { p with inbox := [] } hroom p.inbox
  playing := p.drain_fields.2.2
  frame n := by
    -- A frame is played without a look at the positions.
    have hready : (p.forget slot).isReady = p.drain.isReady := rfl
    rw [fill, drain_of_inbox_eq_nil (p.inbox_forget slot), fill, play, play, hready]
    split
    · rfl
    · rfl

end Playout

namespace Loopback

/-! ## One happening -/

namespace Site

variable {site : Site} {h : PeerHandle} {q : PeerState} {p : Playout} {slot : Slot}

/-- Packets arrive on slots that the peer has. -/
theorem exists_of_mem_arrivals {e : Playout.Event} (he : e ∈ site.arrivals h) :
    ∃ q slot x, site.state.peers.get? h = some q ∧ q.slots.get? slot ≠ none ∧
      e = .arrival slot x := by
  rw [arrivals] at he
  cases hq : site.state.peers.get? h with
  | none =>
    rw [hq] at he
    exact absurd he List.not_mem_nil
  | some q =>
    rw [hq] at he
    obtain ⟨d, -, hd⟩ := List.mem_filterMap.mp he
    rw [arrival?] at hd
    split at hd
    · next slot x hslot hx =>
      obtain ⟨⟨key, s⟩, hfind, rfl⟩ := Option.map_eq_some_iff.mp hslot
      have hmem := Table.mem_entries.mp (List.mem_of_find?_eq_some hfind)
      exact ⟨q, key, x, rfl, hmem ▸ Option.some_ne_none s, (Option.some.inj hd).symm⟩
    · exact absurd hd.symm (Option.some_ne_none e)

theorem arrival_of_mem_toReceiver {e : Happening} {x : Packet}
    (hx : .arrival slot x ∈ site.toReceiver h e) :
    ∃ q, site.state.peers.get? h = some q ∧ q.slots.get? slot ≠ none := by
  have harrivals (hmem : .arrival slot x ∈ site.arrivals h) :
      ∃ q, site.state.peers.get? h = some q ∧ q.slots.get? slot ≠ none := by
    obtain ⟨q, slot', x', hq, hslot, he⟩ := exists_of_mem_arrivals hmem
    obtain ⟨rfl, -⟩ := Playout.Event.arrival.inj he
    exact ⟨q, hq, hslot⟩
  unfold toReceiver at hx
  split at hx
  · split at hx
    · exact harrivals hx
    · exact absurd hx List.not_mem_nil
  · split at hx
    · refine harrivals ((List.mem_append.mp hx).resolve_right fun hlast => ?_)
      exact absurd (List.mem_singleton.mp hlast) nofun
    · exact absurd hx List.not_mem_nil
  · split at hx
    · refine harrivals ((List.mem_append.mp hx).resolve_right fun hlast => ?_)
      exact absurd (List.mem_singleton.mp hlast) nofun
    · exact absurd hx List.not_mem_nil
  · exact absurd hx List.not_mem_nil

/-- A receiver goes through the taking down of a slot only if the slot is taken down. -/
theorem unlinks_of_mem_toReceiver {e : Happening} (he : .unlink slot ∈ site.toReceiver h e) :
    site.unlinks h slot e = true := by
  -- What arrives takes no slot down, so the event is the request itself.
  have harrivals : .unlink slot ∉ site.arrivals h := by
    intro hmem
    obtain ⟨q, slot', x, -, -, he⟩ := exists_of_mem_arrivals hmem
    exact absurd he nofun
  unfold toReceiver at he
  split at he
  · split at he
    · exact absurd he harrivals
    · exact absurd he List.not_mem_nil
  · split at he
    · rcases List.mem_append.mp he with he | he
      · exact absurd he harrivals
      · exact absurd (List.mem_singleton.mp he) nofun
    · exact absurd he List.not_mem_nil
  · next h' slot' =>
    split at he
    · next hdone =>
      obtain ⟨rfl, hanswer⟩ := hdone
      obtain rfl : slot = slot' := by
        rcases List.mem_append.mp he with he | he
        · exact absurd he harrivals
        · exact Playout.Event.unlink.inj (List.mem_singleton.mp he)
      have hok : (site.unlink h' slot).1 = .ok () := by
        cases hunlink : (site.unlink h' slot).1 with
        | error code =>
          rw [hunlink] at hanswer
          exact absurd hanswer nofun
        | ok _ => rfl
      exact unlinks_unlink.mpr ⟨rfl, rfl, hok⟩
    · exact absurd he List.not_mem_nil
  · exact absurd he List.not_mem_nil

/-- If a slot is taken down, the receiver forgets it after what waits has arrived. -/
theorem toReceiver_of_unlinks {e : Happening} (he : site.unlinks h slot e = true) :
    site.toReceiver h e = site.arrivals h ++ [.unlink slot] := by
  cases e with
  | machine change => exact absurd he Bool.false_ne_true
  | settle h' => exact absurd he Bool.false_ne_true
  | request r =>
    cases r with
    | unlink h' slot' =>
      obtain ⟨rfl, rfl, hok⟩ := unlinks_unlink.mp he
      refine if_pos ⟨rfl, ?_⟩
      rw [hok]
      rfl
    | _ => exact absurd he Bool.false_ne_true

/-! ## Every mentioned slot is there -/

/-- The receivers of a site mention only slots that their peers have. -/
def MentionsOwnSlots (site : Site) : Prop :=
  ∀ h q p, site.state.peers.get? h = some q → q.flow = .receiving p →
    ∀ slot, p.Mentions slot → q.slots.get? slot ≠ none

end Site

theorem IsOpened.not_mentions {config : PeerConfig} {c : ContextHandle} {q : PeerState} {p : Playout}
    (hq : IsOpened config c q) (hflow : q.flow = .receiving p) (slot : Slot) : ¬ p.Mentions slot := by
  obtain ⟨config, -, hplayout⟩ := hq.isUnused hflow
  have hidle := isIdle_of_playout? hplayout
  rw [Playout.not_mentions_iff, hidle.positions, hidle.inbox]
  exact ⟨rfl, rfl⟩

/-- A slot that is there stays, unless it is taken down. -/
theorem SlotsStep.slot_ne_none {site : Site} {h : PeerHandle} {q : PeerState} {e : Happening}
    {slots : Table Slot SlotState} (hstep : SlotsStep site h q e slots) {slot : Slot}
    (hslot : q.slots.get? slot ≠ none) (hkept : site.unlinks h slot e = false) :
    slots.get? slot ≠ none := by
  cases hstep with
  | still => exact hslot
  | spoiled other hwhole => exact Table.get?_insert_ne_none hslot _ _
  | edited other i isLink s hwhole hfree hedit => exact Table.get?_insert_ne_none hslot _ _
  | unlinked other hunlinks =>
    have hother : slot ≠ other := by
      rintro rfl
      exact absurd (hkept.symm.trans hunlinks) Bool.false_ne_true
    rwa [Table.get?_erase_of_ne _ hother]

namespace Site.MentionsOwnSlots

variable {site : Site}

theorem start (machine : Machine) : ({ machine } : Site).MentionsOwnSlots :=
  fun _ _ _ hq => absurd hq nofun

theorem after (hsite : site.MentionsOwnSlots) (e : Happening) : (site.after e).MentionsOwnSlots := by
  intro h q' p' hq' hflow' slot
  cases site.receives_after e hflow' hq' with
  | opened c config hopens hopened => exact fun hp' => absurd hp' (hopened.not_mentions hflow' slot)
  | went q p hopens hq hflow hp' =>
    cases hunlinks : site.unlinks h slot e with
    | true =>
      -- The slot goes, but it is not mentioned any more.
      rw [hp', toReceiver_of_unlinks hunlinks, Playout.afterAll_concat]
      exact fun hmentions => absurd hmentions (Playout.not_mentions_forget _ slot)
    | false =>
      intro hmentions
      have hslot : q.slots.get? slot ≠ none := by
        by_cases harrival : ∃ x, .arrival slot x ∈ site.toReceiver h e
        · obtain ⟨x, hx⟩ := harrival
          obtain ⟨q₁, hq₁, hslot⟩ := arrival_of_mem_toReceiver hx
          rwa [Option.some.inj (hq.symm.trans hq₁)]
        · refine hsite h q p hq hflow slot (Decidable.byContradiction fun hnot => ?_)
          rw [hp'] at hmentions
          exact Playout.not_mentions_afterAll hnot
            (p.deliveredOn_eq_nil (not_exists.mp harrival)) hmentions
      cases site.peerStep_after e hq' with
      | opened hopened => exact absurd (hopens.symm.trans hopened) Bool.false_ne_true
      | stepped q₁ hq₁ hfec hstep =>
        rw [← Option.some.inj (hq.symm.trans hq₁)] at hstep
        exact hstep.slot_ne_none hslot hunlinks

theorem afterAll (hsite : site.MentionsOwnSlots) (events : List Happening) :
    (site.afterAll events).MentionsOwnSlots := by
  induction events generalizing site with
  | nil => exact hsite
  | cons e events ih => exact ih (hsite.after e)

end Site.MentionsOwnSlots

/-! ## Runs of one receiver -/

/-- As long as a slot is not renewed, its receiver at the end of a run is the one at the beginning after
what has happened to it, and the slot was not taken down. -/
theorem Site.receiver_afterAll {site : Site} {h : PeerHandle} {slot : Slot} {events : List Happening}
    {q'' : PeerState} {p'' : Playout} (hkept : renewed h slot events site = false)
    (hq'' : (site.afterAll events).state.peers.get? h = some q'') (hflow'' : q''.flow = .receiving p'') :
    ∃ q p, site.state.peers.get? h = some q ∧ q.flow = .receiving p ∧
      ∀ (p₀ : Playout) (past : List Playout.Event), p = p₀.afterAll past → .unlink slot ∉ past →
        p'' = p₀.afterAll (history h events site past) ∧
          .unlink slot ∉ history h events site past := by
  -- What has happened to the receiver grows along the run, so it is any.
  induction events generalizing site with
  | nil => exact ⟨q'', p'', hq'', hflow'', fun p₀ past hp hpast => ⟨hp, hpast⟩⟩
  | cons e events ih =>
    obtain ⟨hrenews, hrest⟩ := Bool.or_eq_false_iff.mp hkept
    obtain ⟨hunlinks, hopens⟩ := Bool.or_eq_false_iff.mp hrenews
    obtain ⟨q', p', hq', hflow', hend⟩ := ih hrest hq''
    cases site.receives_after e hflow' hq' with
    | opened c config hopened => exact absurd (hopens.symm.trans hopened) Bool.false_ne_true
    | went q p hstill hq hflow hp' =>
      refine ⟨q, p, hq, hflow, fun p₀ past hp hpast => ?_⟩
      rw [history, hopens]
      refine hend p₀ _ ?_ fun hmem => ?_
      · rw [if_neg Bool.false_ne_true, Playout.afterAll_append, ← hp, hp']
      · rw [if_neg Bool.false_ne_true] at hmem
        rcases List.mem_append.mp hmem with hmem | hmem
        · exact hpast hmem
        · exact absurd (hunlinks.symm.trans (unlinks_of_mem_toReceiver hmem)) Bool.false_ne_true

/-- The packets that arrive wait behind those in the inbox, and nothing else changes. -/
theorem Site.afterAll_arrivals_eq (site : Site) (h : PeerHandle) (p : Playout) :
    ∃ waiting, p.afterAll (site.arrivals h) = { p with inbox := p.inbox ++ waiting } := by
  have harrivals : ∀ e ∈ site.arrivals h, ∃ slot x, e = .arrival slot x := by
    intro e he
    obtain ⟨q, slot, x, -, -, he⟩ := exists_of_mem_arrivals he
    exact ⟨slot, x, he⟩
  generalize site.arrivals h = events at harrivals
  induction events generalizing p with
  | nil =>
    refine ⟨[], ?_⟩
    rw [List.append_nil]
    rfl
  | cons e events ih =>
    obtain ⟨slot, x, rfl⟩ := harrivals e List.mem_cons_self
    obtain ⟨waiting, hwaiting⟩ := ih (p.deliver slot x) fun e he =>
      harrivals e (List.mem_cons_of_mem _ he)
    refine ⟨(if p.inbox.length < Playout.inboxCapacity then [(slot, x)] else []) ++ waiting, ?_⟩
    refine Eq.trans hwaiting ?_
    rw [Playout.deliver_eq, List.append_assoc]

/-- The queue of a receiver is never longer than it may be. -/
theorem Site.HasHistory.length_queue_le {site : Site} {past : PeerHandle → List Playout.Event}
    (hsite : site.HasHistory past) {h : PeerHandle} {q : PeerState} {p : Playout}
    (hq : site.state.peers.get? h = some q) (hflow : q.flow = .receiving p) :
    p.queue.length ≤ p.capacity := by
  obtain ⟨p₀, hunused, rfl⟩ := hsite h q p hq hflow
  obtain ⟨hholds, -⟩ := hunused.holds
  exact (hholds.afterAll (past h)).room

/-- A slot of a receiver that is taken down is forgotten by the receiver, after all that has come is in
its inbox. -/
theorem Site.unlink_receiving {site : Site} {h : PeerHandle} {slot : Slot} {q : PeerState} {p : Playout}
    (hq : site.state.peers.get? h = some q) (hflow : q.flow = .receiving p)
    (hok : (site.unlink h slot).1 = .ok ()) :
    ∃ q', (site.unlink h slot).2.state.peers.get? h = some q' ∧
      q'.slots = q.slots.erase slot ∧
      q'.flow = .receiving ((p.afterAll (site.arrivals h)).forget slot) := by
  rcases site.unlink_cases h slot with ⟨code, hunlink⟩ | ⟨q₁, machine, hq₁, hunlink⟩
  · rw [hunlink] at hok
    exact absurd hok nofun
  · obtain rfl := Option.some.inj (hq.symm.trans hq₁)
    rw [hunlink]
    refine ⟨_, Table.get?_insert_self _ _ _, rfl, ?_⟩
    rw [collectFlow, hflow, afterAll_arrivals hq]
    rfl

/-- How a site goes on after a slot of a peer has been taken down, with `p` for its receiver before. -/
def Site.ForgetsSlot (site site' : Site) (h : PeerHandle) (slot : Slot) (q : PeerState)
    (p : Playout) : Prop :=
  ∃ waiting q' p', p.afterAll (site.arrivals h) = { p with inbox := p.inbox ++ waiting } ∧
    site'.state.peers.get? h = some q' ∧ q'.slots = q.slots.erase slot ∧
    q'.flow = .receiving p' ∧ Playout.Forgot slot { p with inbox := p.inbox ++ waiting } p' ∧
    ∀ later q'' p'', renewed h slot later site' = false →
      (site'.afterAll later).state.peers.get? h = some q'' → q''.flow = .receiving p'' →
        p'' = p'.afterAll (history h later site' []) ∧
          p'.StartsOver slot (history h later site' [])

/-- In every run, a receiver has positions of slots only that its peer has. If a slot is taken down, its
position is gone, and so is what waits of it; the packets that have come by then, among them what waits
at the sockets, have been looked at like those of any other slot, and the samples go on waiting to be
read. From then on, and until the slot is taken down again, what is accepted on it goes by what arrives
on it, whatever it was before; the first packet is accepted in any case. -/
theorem unlink_forgets_slot (machine : Machine) (events : List Happening) :
    let site := ({ machine } : Site).afterAll events
    (∀ h q p, site.state.peers.get? h = some q → q.flow = .receiving p →
      ∀ slot, p.positions.get? slot ≠ none → q.slots.get? slot ≠ none) ∧
    ∀ h slot q p, site.state.peers.get? h = some q → q.flow = .receiving p →
      (engine (.unlink h slot) site).1 = .ok () →
        site.ForgetsSlot (engine (.unlink h slot) site).2 h slot q p := by
  intro site
  have hmentions : site.MentionsOwnSlots := (Site.MentionsOwnSlots.start machine).afterAll events
  refine ⟨fun h q p hq hflow slot hslot => hmentions h q p hq hflow slot (.inl hslot), ?_⟩
  intro h slot q p hq hflow hok
  have hroom := ((Site.HasHistory.start machine).afterAll events).length_queue_le hq hflow
  obtain ⟨q', hq', hslots, hflow'⟩ := Site.unlink_receiving hq hflow hok
  obtain ⟨waiting, hwaiting⟩ := site.afterAll_arrivals_eq h p
  rw [hwaiting] at hflow'
  refine ⟨waiting, q', _, hwaiting, hq', hslots, hflow',
    Playout.forgot { p with inbox := p.inbox ++ waiting } hroom slot, ?_⟩
  intro later q'' p'' hkept hq'' hflow''
  obtain ⟨q₁, p₁, hq₁, hflow₁, hend⟩ := Site.receiver_afterAll hkept hq'' hflow''
  obtain rfl := Option.some.inj (hq'.symm.trans hq₁)
  obtain rfl := Flow.receiving.inj (hflow'.symm.trans hflow₁)
  obtain ⟨hp'', hunlink⟩ := hend _ [] rfl List.not_mem_nil
  exact ⟨hp'', Playout.startsOver (Playout.not_mentions_forget _ slot) hunlink⟩

/-- A receiver with a packet of a slot in its inbox. -/
def packetWaits : List Happening := [
  .request (.contextOpen {}),
  .request (.peerOpen ⟨1⟩ (.receiver {
    frameEncoding := .new 1000 .mono, targetLatency := .ofMillis 2 })),
  .request (.bind ⟨2⟩ ⟨0⟩ .audioSource ⟨some .rtp, "127.0.0.1", 0, ""⟩),
  .machine fun m => { m with network := { m.network with waiting := [
    (⟨0⟩, Packet.encode ⟨.source, 1, 5, [7, 7]⟩)] } },
  .settle ⟨2⟩]

/-- The slot is bound again, and a packet of the same stream with an earlier number comes. -/
def boundAgain : List Happening := [
  .request (.bind ⟨2⟩ ⟨0⟩ .audioSource ⟨some .rtp, "127.0.0.1", 0, ""⟩),
  .machine fun m => { m with network := { m.network with waiting := [
    (⟨1⟩, Packet.encode ⟨.source, 1, 4, [6, 6]⟩)] } },
  .settle ⟨2⟩]

/-- If the slot is taken down in between, both packets are played. -/
theorem unlink_forgets_slot_boundAgain :
    let machine : Machine := { host := .selfContained, random := fun _ => 0 }
    let site := ({ machine } : Site).afterAll packetWaits
    let site' := (engine (.unlink ⟨2⟩ ⟨0⟩) site).2
    (engine (.unlink ⟨2⟩ ⟨0⟩) site).1 = .ok () ∧ renewed ⟨2⟩ ⟨0⟩ boundAgain site' = false ∧
      (engine (.read ⟨2⟩ 4) (site'.afterAll boundAgain)).1 = .ok [7, 7, 6, 6] ∧
      ∃ q' p', site'.state.peers.get? ⟨2⟩ = some q' ∧ q'.flow = .receiving p' ∧
        p'.positions.get? ⟨0⟩ = none ∧ p'.StartsOver ⟨0⟩ (history ⟨2⟩ boundAgain site' []) := by
  intro machine site site'
  have hreceiver (site : Site) (hkind : (site.state.peers.get? ⟨2⟩).map PeerState.kind = some .receiver) :
      ∃ q p, site.state.peers.get? ⟨2⟩ = some q ∧ q.flow = .receiving p := by
    obtain ⟨q, hq, hkind⟩ := Option.map_eq_some_iff.mp hkind
    obtain ⟨p, hflow⟩ := Flow.exists_of_kind_eq_receiver hkind
    exact ⟨q, p, hq, hflow⟩
  have hok : (engine (.unlink ⟨2⟩ ⟨0⟩) site).1 = .ok () := by decide +kernel
  have hkept : renewed ⟨2⟩ ⟨0⟩ boundAgain site' = false := by decide +kernel
  obtain ⟨q, p, hq, hflow⟩ := hreceiver site (by decide +kernel)
  obtain ⟨q'', p'', hq'', hflow''⟩ := hreceiver (site'.afterAll boundAgain) (by decide +kernel)
  have hread : (engine (.read ⟨2⟩ 4) (site'.afterAll boundAgain)).1 = .ok [7, 7, 6, 6] := by
    decide +kernel
  have hsite : ({ machine } : Site).afterAll packetWaits = site := rfl
  have hsite' : (engine (.unlink ⟨2⟩ ⟨0⟩) site).2 = site' := rfl
  have hunlinked := (unlink_forgets_slot machine packetWaits).2 ⟨2⟩ ⟨0⟩ q p
  rw [hsite, hsite'] at hunlinked
  -- Nothing more is computed.
  clear_value site' site
  obtain ⟨waiting, q', p', -, hq', -, hflow', hforgot, hlater⟩ := hunlinked hq hflow hok
  obtain ⟨-, hover⟩ := hlater boundAgain q'' p'' hkept hq'' hflow''
  exact ⟨hok, hkept, hread, q', p', hq', hflow', hforgot.position, hover⟩

end Loopback
end AudioLink
