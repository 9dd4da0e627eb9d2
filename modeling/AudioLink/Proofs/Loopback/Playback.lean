import AudioLink.Proofs.Loopback.History
import AudioLink.Proofs.Loopback.Reception

/-
What a receiver goes through.

Three things happen to the receiving side of a peer: a packet arrives on one of its slots, a frame is
read, and a slot is taken down. Each of them is an event, and all that is proved of a receiver alone
is proved for any list of events. That nothing else ever happens to it is proved here: in every run
of the engine, whatever is asked of it and whatever the machine does, the receiving side of a peer is
the one it was opened with after the events of its history.
-/
set_option autoImplicit false

namespace AudioLink

/-! ## Events -/

namespace Playout

/-- What can happen to the receiving side of a peer. -/
inductive Event where
  | arrival (slot : Slot) (x : Packet)
  | read (n : Nat)
  /-- A slot is taken down. -/
  | unlink (slot : Slot)

def after (p : Playout) : Event → Playout
  | .arrival slot x => p.deliver slot x
  | .read n => (p.fill n).2
  | .unlink slot => p.forget slot

def afterAll (p : Playout) (events : List Event) : Playout := events.foldl after p

/-- What comes later happens to the receiver that is there then. -/
theorem afterAll_append (p : Playout) (events more : List Event) :
    p.afterAll (events ++ more) = (p.afterAll events).afterAll more :=
  List.foldl_append

theorem afterAll_concat (p : Playout) (events : List Event) (e : Event) :
    p.afterAll (events ++ [e]) = (p.afterAll events).after e := by
  rw [afterAll_append]
  rfl

end Playout

/-! ## The history of a receiver -/

namespace Loopback

/-- A datagram as an event: that it arrives, if it holds a packet and its socket belongs to a slot. -/
def arrival? (q : PeerState) (d : SocketId × Bytes) : Option Playout.Event :=
  match q.slotOfSocket? d.1, acceptable? q.channels d.2 with
  | some slot, some x => some (.arrival slot x)
  | _, _ => none

/-- The packets that wait at the sockets of a peer arrive. -/
def arrivals (m : Machine) (q : PeerState) : List Playout.Event :=
  (m.network.take q.sockets.contains).1.filterMap (arrival? q)

namespace Site

/-- The packets that wait at the sockets of the peer with this handle arrive. -/
def arrivals (site : Site) (h : PeerHandle) : List Playout.Event :=
  match site.state.peers.get? h with
  | some q => Loopback.arrivals site.machine q
  | none => []

/-- What happens to the receiver with this handle. A call that is refused does nothing to it. -/
def toReceiver (site : Site) (h : PeerHandle) : Happening → List Playout.Event
  | .settle h' => if h' = h then site.arrivals h else []
  | .request (.read h' n) =>
    if h' = h ∧ (site.read h' n).1.failure? = none then site.arrivals h ++ [.read n] else []
  | .request (.unlink h' slot) =>
    if h' = h ∧ (site.unlink h' slot).1.failure? = none then site.arrivals h ++ [.unlink slot]
    else []
  | _ => []

/-- Whether a peer is opened under this handle. -/
def opens (site : Site) (h : PeerHandle) : Happening → Bool
  | .request (.peerOpen c config) => (site.openPeer c config).1.toOption = some h
  | _ => false

end Site

/-- All that has happened to the receiver with this handle since it was opened, in a run that goes on
after `past`. -/
def history (h : PeerHandle) : List Happening → Site → List Playout.Event → List Playout.Event
  | [], _, past => past
  | e :: events, site, past =>
    history h events (site.after e) (if site.opens h e then [] else past ++ site.toReceiver h e)

/-- Taking what waits at the sockets is a list of arrivals. -/
theorem collect_eq_afterAll (m : Machine) (q : PeerState) (p : Playout) :
    (collect m q p).1 = p.afterAll (arrivals m q) := by
  unfold collect arrivals
  dsimp only
  generalize (m.network.take q.sockets.contains).1 = ds
  induction ds generalizing p with
  | nil => rfl
  | cons d ds ih =>
    -- A datagram that is no packet, or came to no slot, changes nothing and is no event.
    rw [List.foldl_cons, ih, List.filterMap_cons, receive, arrival?]
    cases q.slotOfSocket? d.1 with
    | none => rfl
    | some slot =>
      cases acceptable? q.channels d.2 with
      | none => rfl
      | some x => rfl

/-! ## One happening -/

/-- What there is under a handle after something has happened, if it receives: a peer that has just
been opened, or the receiver that was there, after what has happened to it. -/
inductive Receives (site : Site) (h : PeerHandle) (e : Happening) (q' : PeerState) (p' : Playout) :
    Prop
  | opened (c : ContextHandle) (config : PeerConfig) (hopens : site.opens h e = true)
      (hopened : IsOpened config c q')
  | went (q : PeerState) (p : Playout) (hopens : site.opens h e = false)
      (hq : site.state.peers.get? h = some q) (hflow : q.flow = .receiving p)
      (hp' : p' = p.afterAll (site.toReceiver h e))

section Receives

variable {site : Site} {h h₁ : PeerHandle} {e : Happening} {q q₁ q' : PeerState} {p' : Playout}

/-- A receiver that nothing happens to. -/
theorem Receives.of_still (hflow : q'.flow = .receiving p') (hopens : site.opens h e = false)
    (hevents : site.toReceiver h e = []) (hq' : site.state.peers.get? h = some q') :
    Receives site h e q' p' := by
  refine .went q' p' hopens hq' hflow ?_
  rw [hevents]
  rfl

/-- One peer is put in the place of what it was, by something that does nothing to other peers. -/
theorem Receives.of_insert (q₁' : PeerState) (hflow : q'.flow = .receiving p')
    (hopens : site.opens h e = false) (hothers : h ≠ h₁ → site.toReceiver h e = [])
    (hq₁ : site.state.peers.get? h₁ = some q₁)
    (hself : h = h₁ → ∀ p₁', q₁'.flow = .receiving p₁' →
      ∃ p₁, q₁.flow = .receiving p₁ ∧ p₁' = p₁.afterAll (site.toReceiver h₁ e))
    (hq' : (site.state.peers.insert h₁ q₁').get? h = some q') : Receives site h e q' p' := by
  rcases Table.get?_insert_cases hq' with ⟨rfl, rfl⟩ | ⟨hother, hq'⟩
  · obtain ⟨p₁, hflow₁, hp'⟩ := hself rfl p' hflow
    exact .went q₁ p₁ hopens hq₁ hflow₁ hp'
  · exact .of_still hflow hopens (hothers hother) hq'

end Receives

namespace Site

variable {site : Site} {h h₁ : PeerHandle} {q' : PeerState} {p' : Playout}

/-- Arriving and being collected are the same for the packets that wait. -/
theorem afterAll_arrivals {q : PeerState} (hq : site.state.peers.get? h = some q) (p : Playout) :
    p.afterAll (site.arrivals h) = (collect site.machine q p).1 := by
  rw [arrivals, hq]
  exact (collect_eq_afterAll site.machine q p).symm

/-- What receives after taking what waits has received before. -/
theorem receiving_of_collectFlow {q : PeerState} (hq : site.state.peers.get? h = some q)
    (hflow : (collectFlow site.machine q).1 = .receiving p') :
    ∃ p, q.flow = .receiving p ∧ p' = p.afterAll (site.arrivals h) := by
  unfold collectFlow at hflow
  cases hreceiving : q.flow with
  | sending fec stream p =>
    rw [hreceiving] at hflow
    exact absurd hflow nofun
  | receiving p =>
    rw [hreceiving] at hflow
    refine ⟨p, rfl, ?_⟩
    rw [afterAll_arrivals hq]
    exact (Flow.receiving.inj hflow).symm

/-- What there is under a handle after a peer was to be opened: this peer, or what was there before. -/
theorem get?_openPeer {c : ContextHandle} {config : PeerConfig}
    (hq' : (site.openPeer c config).2.state.peers.get? h = some q') :
    (site.opens h (.request (.peerOpen c config)) = true ∧ IsOpened config c q') ∨
      (site.opens h (.request (.peerOpen c config)) = false ∧
        site.state.peers.get? h = some q') := by
  rcases site.openPeer_spec c config with ⟨code, hcode, hsame⟩ | ⟨k, q, -, hopened, hok, hstate⟩
  · rw [hsame] at hq'
    refine .inr ⟨?_, hq'⟩
    rw [opens, hcode]
    rfl
  · rw [hstate] at hq'
    rw [opens, hok]
    rcases Table.get?_insert_cases hq' with ⟨rfl, rfl⟩ | ⟨hother, hq'⟩
    · exact .inl ⟨decide_eq_true rfl, hopened⟩
    · exact .inr ⟨decide_eq_false fun hsame => hother (Option.some.inj hsame).symm, hq'⟩

/-- A receiver that is opened begins a history; the others go on with theirs. -/
theorem receives_openPeer {c : ContextHandle} {config : PeerConfig}
    (hflow : q'.flow = .receiving p')
    (hq' : (site.openPeer c config).2.state.peers.get? h = some q') :
    Receives site h (.request (.peerOpen c config)) q' p' := by
  rcases get?_openPeer hq' with ⟨hopens, hopened⟩ | ⟨hopens, hq'⟩
  · exact .opened c config hopens hopened
  · exact .of_still hflow hopens rfl hq'

/-- What is done on a slot is no event of a receiver, unless the slot is taken down. -/
theorem SetsSlot.receives {α : Type} {slot : Slot} {result : Answer α × Site} {e : Happening}
    (hsets : SetsSlot site h₁ slot result) (hflow : q'.flow = .receiving p')
    (hopens : site.opens h e = false) (hevents : ∀ other, site.toReceiver other e = [])
    (hq' : result.2.state.peers.get? h = some q') : Receives site h e q' p' := by
  cases hsets with
  | refused code => exact .of_still hflow hopens (hevents h) hq'
  | set hq answer machine s =>
    refine .of_insert (PeerState.setSlot _ slot s) hflow hopens (fun _ => hevents h) hq ?_ hq'
    intro _ p₁ hflow₁
    rw [hevents]
    exact ⟨p₁, hflow₁, rfl⟩

theorem toReceiver_read_of_ne {n : Nat} (hother : h ≠ h₁) :
    site.toReceiver h (.request (.read h₁ n)) = [] :=
  if_neg fun hself => hother hself.1.symm

/-- Reading adds the arrivals and then the frame. -/
theorem receives_read {n : Nat} (hflow : q'.flow = .receiving p')
    (hq' : (site.read h₁ n).2.state.peers.get? h = some q') :
    Receives site h (.request (.read h₁ n)) q' p' := by
  rcases site.read_cases h₁ n with ⟨code, hread⟩ | ⟨q, p, machine, pacer, hq, hreceiving, -, hread⟩
  · rw [hread] at hq'
    refine .of_still hflow rfl (if_neg fun hself => ?_) hq'
    rw [hread] at hself
    exact absurd hself.2 nofun
  · have hdone : site.toReceiver h₁ (.request (.read h₁ n)) = site.arrivals h₁ ++ [.read n] := by
      refine if_pos ⟨rfl, ?_⟩
      rw [hread]
      rfl
    rw [hread] at hq'
    refine .of_insert { q with
      pacer, flow := .receiving ((collect site.machine q p).1.fill n).2 }
      hflow rfl toReceiver_read_of_ne hq ?_ hq'
    intro _ p₁' hflow₁
    refine ⟨p, hreceiving, ?_⟩
    rw [hdone, Playout.afterAll_concat, afterAll_arrivals hq]
    exact (Flow.receiving.inj hflow₁).symm

/-- Unlinking adds the arrivals and then the slot that is taken down. -/
theorem receives_unlink {slot : Slot} (hflow : q'.flow = .receiving p')
    (hq' : (site.unlink h₁ slot).2.state.peers.get? h = some q') :
    Receives site h (.request (.unlink h₁ slot)) q' p' := by
  rcases site.unlink_cases h₁ slot with ⟨code, hunlink⟩ | ⟨q, machine, hq, hunlink⟩
  · rw [hunlink] at hq'
    refine .of_still hflow rfl (if_neg fun hself => ?_) hq'
    rw [hunlink] at hself
    exact absurd hself.2 nofun
  · have hdone : site.toReceiver h₁ (.request (.unlink h₁ slot)) =
        site.arrivals h₁ ++ [.unlink slot] := by
      refine if_pos ⟨rfl, ?_⟩
      rw [hunlink]
      rfl
    rw [hunlink] at hq'
    refine .of_insert { q with
      slots := q.slots.erase slot, flow := (collectFlow site.machine q).1.forget slot }
      hflow rfl (fun hother => if_neg fun hself => hother hself.1.symm) hq ?_ hq'
    intro _ p₁ hflow₁
    -- The packets that wait arrive first, because the sockets go with the slot.
    cases hcollected : (collectFlow site.machine q).1 with
    | sending fec stream p =>
      rw [hcollected] at hflow₁
      exact absurd hflow₁ nofun
    | receiving p =>
      rw [hcollected] at hflow₁
      obtain ⟨p₀, hreceiving, rfl⟩ := receiving_of_collectFlow hq hcollected
      refine ⟨p₀, hreceiving, ?_⟩
      rw [hdone, Playout.afterAll_concat]
      exact (Flow.receiving.inj hflow₁).symm

/-- Writing adds nothing to any history. -/
theorem receives_write {frame : Frame} (hflow : q'.flow = .receiving p')
    (hq' : (site.write h₁ frame).2.state.peers.get? h = some q') :
    Receives site h (.request (.write h₁ frame)) q' p' := by
  rcases site.write_cases h₁ frame with
    ⟨code, hwrite⟩ | ⟨q, fec, stream, p, machine, pacer, hq, -, -, hwrite⟩
  · rw [hwrite] at hq'
    exact .of_still hflow rfl rfl hq'
  · rw [hwrite] at hq'
    refine .of_insert { q with pacer, flow := .sending fec stream (p.push frame).2 }
      hflow rfl (fun _ => rfl) hq ?_ hq'
    intro _ p₁ hflow₁
    exact absurd hflow₁ nofun

/-- Taking what waits adds the arrivals. -/
theorem receives_settle (hflow : q'.flow = .receiving p')
    (hq' : (site.settle h₁).state.peers.get? h = some q') :
    Receives site h (.settle h₁) q' p' := by
  rcases site.settle_cases h₁ with ⟨hsettle, hnone⟩ | ⟨q, machine, hq, hsettle⟩
  · -- Under a handle that is not in use there is no receiver to look at.
    rw [hsettle] at hq'
    refine .of_still hflow rfl (if_neg ?_) hq'
    rintro rfl
    rw [hnone] at hq'
    exact absurd hq' nofun
  · rw [hsettle] at hq'
    refine .of_insert { q with flow := (collectFlow site.machine q).1 }
      hflow rfl (fun hother => if_neg (Ne.symm hother)) hq ?_ hq'
    intro _ p₁ hflow₁
    have hdone : site.toReceiver h₁ (.settle h₁) = site.arrivals h₁ := if_pos rfl
    rw [hdone]
    exact receiving_of_collectFlow hq hflow₁

/-- Whatever happens, a receiver goes through the events that this brings to it, if it has not just
been opened. -/
theorem receives_after (e : Happening) (hflow : q'.flow = .receiving p')
    (hq' : (site.after e).state.peers.get? h = some q') : Receives site h e q' p' := by
  cases e with
  | machine change => exact .of_still hflow rfl rfl hq'
  | settle h₁ => exact receives_settle hflow hq'
  | request r =>
    cases r with
    | contextOpen config => exact .of_still hflow rfl rfl (site.peers_openContext config ▸ hq')
    | registerEncoding c id encoding =>
      exact .of_still hflow rfl rfl (site.peers_registerEncoding c id encoding ▸ hq')
    | contextClose c => exact .of_still hflow rfl rfl (site.peers_closeContext c ▸ hq')
    | peerOpen c config => exact receives_openPeer hflow hq'
    | configure h₁ slot i config =>
      exact (site.setsSlot_configure h₁ slot i config).receives hflow rfl (fun _ => rfl) hq'
    | bind h₁ slot i endpoint =>
      exact (site.setsSlot_bind h₁ slot i endpoint).receives hflow rfl (fun _ => rfl) hq'
    | connect h₁ slot i endpoint =>
      exact (site.setsSlot_connect h₁ slot i endpoint).receives hflow rfl (fun _ => rfl) hq'
    | unlink h₁ slot => exact receives_unlink hflow hq'
    | peerClose h₁ => exact .of_still hflow rfl rfl (site.get?_of_closePeer h₁ hq')
    | read h₁ n => exact receives_read hflow hq'
    | write h₁ frame => exact receives_write hflow hq'

end Site

/-! ## Runs -/

/-- A receiving side as a configuration with a channel gives it. -/
def IsUnused (p : Playout) : Prop :=
  ∃ config : ReceiverConfig, 0 < config.frameEncoding.channelCount ∧ playout? config = some p

/-- A receiver that has just been opened is unused. -/
theorem IsOpened.isUnused {config : PeerConfig} {c : ContextHandle} {q : PeerState} {p : Playout}
    (hq : IsOpened config c q) (hflow : q.flow = .receiving p) : IsUnused p := by
  obtain ⟨context, stream, hflow?⟩ := hq.flow
  have hpos := hq.channels_pos
  rw [hq.channels] at hpos
  cases config with
  | sender config =>
    obtain ⟨packetizer, hsending, -⟩ := exists_of_flow?_sender hflow?
    rw [hflow] at hsending
    exact absurd hsending nofun
  | receiver config =>
    obtain ⟨p', hplayout, hreceiving⟩ := Option.map_eq_some_iff.mp hflow?
    rw [hflow] at hreceiving
    obtain rfl := Flow.receiving.inj hreceiving
    exact ⟨config, hpos, hplayout⟩

/-- Every receiver is the one it was opened with after what has happened to it. -/
def Site.HasHistory (site : Site) (past : PeerHandle → List Playout.Event) : Prop :=
  ∀ h q p, site.state.peers.get? h = some q → q.flow = .receiving p →
    ∃ p₀, IsUnused p₀ ∧ p = p₀.afterAll (past h)

namespace Site.HasHistory

variable {site : Site} {past : PeerHandle → List Playout.Event}

/-- Every receiver has a history after an event, which goes on from the one before. -/
theorem after (hsite : site.HasHistory past) (e : Happening) :
    (site.after e).HasHistory fun h =>
      if site.opens h e then [] else past h ++ site.toReceiver h e := by
  intro h q' p' hq' hflow
  dsimp only
  cases site.receives_after e hflow hq' with
  | opened c config hopens hopened =>
    rw [if_pos hopens]
    exact ⟨p', hopened.isUnused hflow, rfl⟩
  | went q p hopens hq hreceiving hp' =>
    obtain ⟨p₀, hunused, rfl⟩ := hsite h q p hq hreceiving
    rw [if_neg (Bool.eq_false_iff.mp hopens)]
    refine ⟨p₀, hunused, ?_⟩
    rw [Playout.afterAll_append, hp']

/-- The history of a receiver tells what has become of it in any run. -/
theorem afterAll (hsite : site.HasHistory past) (events : List Happening) :
    (site.afterAll events).HasHistory fun h => history h events site (past h) := by
  induction events generalizing site past with
  | nil => exact hsite
  | cons e events ih => exact ih (hsite.after e)

/-- There are no receivers at first. -/
theorem start (machine : Machine) : ({ machine } : Site).HasHistory fun _ => [] := by
  intro h q p hq
  exact absurd hq nofun

end Site.HasHistory

/-- A frame that is read is what the receiver plays after the packets that wait have arrived. -/
theorem Site.frame_of_read {site : Site} {h : PeerHandle} {q : PeerState} {p : Playout} {n : Nat}
    {frame : Frame} (hq : site.state.peers.get? h = some q) (hflow : q.flow = .receiving p)
    (hread : (site.read h n).1 = .ok frame) :
    frame = ((p.afterAll (site.arrivals h)).fill n).1 := by
  rcases site.read_cases h n with ⟨code, hrefused⟩ | ⟨q', p', m, pacer, hq', hflow', -, hok⟩
  · rw [hrefused] at hread
    exact absurd hread nofun
  · obtain rfl : q = q' := Option.some.inj (hq.symm.trans hq')
    obtain rfl : p = p' := Flow.receiving.inj (hflow.symm.trans hflow')
    rw [hok] at hread
    rw [afterAll_arrivals hq]
    exact (Except.ok.inj hread).symm

end Loopback
end AudioLink
