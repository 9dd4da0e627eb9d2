import AudioLink.Proofs.Checks
import AudioLink.Proofs.Loopback.Playback

/-
What a request or an event makes of the slots of a peer.

Three requests work on an interface of a slot: it is configured, bound or connected. Each of them
finds no peer, or a peer of the other kind, or a broken slot, and changes nothing; or it fails and
leaves the slot broken; or it succeeds, and then the interface was not linked before. `SlotResult`
lists these cases. `SlotsStep` says what any event makes of the slots of a peer: one of the above, or
a slot is taken down.
-/
set_option autoImplicit false

namespace AudioLink

namespace Request

/-- The interface that a request works on. -/
def worksOn? : Request → Option (PeerHandle × Slot × Interface)
  | configure h slot i _ | bind h slot i _ | connect h slot i _ => some (h, slot, i)
  | _ => none

/-- Whether a request links an interface. -/
def isLink : Request → Bool
  | bind _ _ _ _ | connect _ _ _ _ => true
  | _ => false

end Request

namespace Loopback

/-! ## Kinds of peers -/

namespace Flow

/-- The error correction of a sender. -/
def fec? : Flow → Option FecEncoding
  | sending fec _ _ => some fec
  | receiving _ => none

/-- Whether a request to work on an interface can be made of a peer: receivers are bound, and senders
are connected. -/
def takes : Flow → Request → Bool
  | _, .configure _ _ _ _ => true
  | receiving _, .bind _ _ _ _ => true
  | sending _ _ _, .connect _ _ _ _ => true
  | _, _ => false

/-- Forgetting a slot leaves the repair encoding of a sender as it is. -/
theorem fec?_forget (flow : Flow) (slot : Slot) : (flow.forget slot).fec? = flow.fec? := by
  cases flow with
  | sending fec stream p => rfl
  | receiving p => rfl

/-- Taking what waits leaves the repair encoding of a sender as it is. -/
theorem fec?_collectFlow (m : Machine) (q : PeerState) :
    (collectFlow m q).1.fec? = q.flow.fec? := by
  unfold collectFlow
  cases q.flow with
  | sending fec stream p => rfl
  | receiving p => rfl

end Flow

/-- Whether a peer may have this link on this interface. -/
def Permits (fec? : Option FecEncoding) (i : Interface) : Link → Prop
  | .bound _ => fec? = none ∧ i ≠ .consolidated
  | .connected _ => ∃ fec, fec? = some fec ∧ i ≠ .consolidated ∧ (fec = .disable → i ≠ .audioRepair)

/-! ## One request -/

/-- What passes the checks has no link, and is no consolidated interface. -/
theorem checkLink_eq_ok {s : SlotState} {i : Interface} {endpoint : Endpoint} {protocol : Protocol}
    (hlink : checkLink s i endpoint = .ok protocol) :
    s.links.get? i = none ∧ i ≠ .consolidated := by
  unfold checkLink at hlink
  cases hprotocol : endpoint.protocol with
  | none =>
    rw [hprotocol] at hlink
    exact absurd hlink nofun
  | some p =>
    rw [hprotocol] at hlink
    obtain ⟨hfree, hlink⟩ := ite_error_eq_ok_iff.mp hlink
    obtain ⟨hprovided, -⟩ := ite_error_eq_ok_iff.mp hlink
    exact ⟨Option.not_isSome_iff_eq_none.mp fun hsome => hfree (.inl hsome), hprovided⟩

/-- What is bound had no link before, and is no consolidated interface. -/
theorem bindLink_eq_ok {m : Machine} {s : SlotState} {i : Interface} {endpoint : Endpoint}
    {result : (Endpoint × SocketId) × Machine} (hlink : bindLink m s i endpoint = .ok result) :
    s.links.get? i = none ∧ i ≠ .consolidated := by
  obtain ⟨protocol, hcheck, -⟩ := bind_eq_ok_iff.mp hlink
  exact checkLink_eq_ok hcheck

/-- What is connected had no link before, and is a repair interface only where there is repair. -/
theorem connectLink_eq_ok {m : Machine} {fec : FecEncoding} {s : SlotState} {i : Interface}
    {endpoint : Endpoint} {result : SocketId × Machine}
    (hlink : connectLink m fec s i endpoint = .ok result) :
    s.links.get? i = none ∧ i ≠ .consolidated ∧ (fec = .disable → i ≠ .audioRepair) := by
  obtain ⟨protocol, hcheck, hlink⟩ := bind_eq_ok_iff.mp hlink
  obtain ⟨hfree, hprovided⟩ := checkLink_eq_ok hcheck
  refine ⟨hfree, hprovided, ?_⟩
  rintro rfl rfl
  -- Without error correction no protocol is paired with the repair interface.
  have hunpaired : pairs .disable .audioRepair protocol = false := by
    rw [pairs]
    exact decide_eq_false nofun
  dsimp only at hlink
  rw [if_pos hunpaired] at hlink
  exact absurd hlink nofun

/-- What a request that succeeds makes of a slot. -/
inductive SlotEdit (fec? : Option FecEncoding) (i : Interface) (s : SlotState) :
    Bool → SlotState → Prop
  | configured (config : InterfaceConfig) :
      SlotEdit fec? i s false { s with configs := s.configs.set i config }
  | linked (link : Link) (hpermits : Permits fec? i link) :
      SlotEdit fec? i s true { s with links := s.links.set i link }

/-- What a request to work on an interface of a slot does. -/
inductive SlotResult (site : Site) (r : Request) (h : PeerHandle) (slot : Slot) (i : Interface) :
    Answer r.Response × Site → Prop
  | unknown (hnone : site.state.peers.get? h = none) :
      SlotResult site r h slot i (.error .notFound, site)
  | unfit {q : PeerState} (hq : site.state.peers.get? h = some q) (hunfit : q.flow.takes r = false) :
      SlotResult site r h slot i (.error .unsupported, site)
  | broken {q : PeerState} (hq : site.state.peers.get? h = some q) (hfit : q.flow.takes r = true)
      (hbroken : (q.slot slot).broken = true) :
      SlotResult site r h slot i (.error .invalidArgument, site)
  | spoiled {q : PeerState} (hq : site.state.peers.get? h = some q) (hfit : q.flow.takes r = true)
      (hwhole : (q.slot slot).broken = false) (code : EngineCode) :
      SlotResult site r h slot i (.error code, site.setSlot h q slot (q.slot slot).spoil)
  | done {q : PeerState} (hq : site.state.peers.get? h = some q) (hfit : q.flow.takes r = true)
      (hwhole : (q.slot slot).broken = false) (hfree : (q.slot slot).links.get? i = none)
      (a : r.Response) (machine : Machine) (s : SlotState)
      (hedit : SlotEdit q.flow.fec? i (q.slot slot) r.isLink s) :
      SlotResult site r h slot i (.ok a, { site with machine }.setSlot h q slot s)

section SlotResult

variable (site : Site) (h : PeerHandle) (slot : Slot) (i : Interface)

/-- Configuring edits one interface of the slot, or spoils the slot, or is refused. -/
theorem slotResult_configure (config : InterfaceConfig) :
    SlotResult site (.configure h slot i config) h slot i (site.configure h slot i config) := by
  unfold Site.configure
  cases hq : site.state.peers.get? h with
  | none => exact .unknown hq
  | some q =>
    have hfit : q.flow.takes (.configure h slot i config) = true := by
      cases q.flow with
      | sending fec stream p => rfl
      | receiving p => rfl
    dsimp only
    by_cases hbroken : (q.slot slot).broken = true
    · rw [if_pos hbroken]
      exact .broken hq hfit hbroken
    · have hwhole : (q.slot slot).broken = false := Bool.eq_false_iff.mpr hbroken
      rw [if_neg hbroken]
      split
      · exact .spoiled hq hfit hwhole _
      · next hvalid =>
        have hfree : (q.slot slot).links.get? i = none :=
          Option.not_isSome_iff_eq_none.mp fun hsome => hvalid (.inl hsome)
        exact .done hq hfit hwhole hfree () site.machine _ (.configured config)

theorem slotResult_bind (endpoint : Endpoint) :
    SlotResult site (.bind h slot i endpoint) h slot i (site.bind h slot i endpoint) := by
  unfold Site.bind
  cases hq : site.state.peers.get? h with
  | none => exact .unknown hq
  | some q =>
    dsimp only
    cases hflow : q.flow with
    | sending fec stream p => exact .unfit hq (by rw [hflow]; rfl)
    | receiving p =>
      have hfit : q.flow.takes (.bind h slot i endpoint) = true := by
        rw [hflow]
        rfl
      dsimp only
      by_cases hbroken : (q.slot slot).broken = true
      · rw [if_pos hbroken]
        exact .broken hq hfit hbroken
      · have hwhole : (q.slot slot).broken = false := Bool.eq_false_iff.mpr hbroken
        rw [if_neg hbroken]
        cases hlink : bindLink site.machine (q.slot slot) i endpoint with
        | error code => exact .spoiled hq hfit hwhole code
        | ok result =>
          obtain ⟨hfree, hprovided⟩ := bindLink_eq_ok hlink
          refine .done hq hfit hwhole hfree result.1.1 result.2 _ (.linked _ ?_)
          rw [hflow]
          exact ⟨rfl, hprovided⟩

theorem slotResult_connect (endpoint : Endpoint) :
    SlotResult site (.connect h slot i endpoint) h slot i (site.connect h slot i endpoint) := by
  unfold Site.connect
  cases hq : site.state.peers.get? h with
  | none => exact .unknown hq
  | some q =>
    dsimp only
    cases hflow : q.flow with
    | receiving p => exact .unfit hq (by rw [hflow]; rfl)
    | sending fec stream p =>
      have hfit : q.flow.takes (.connect h slot i endpoint) = true := by
        rw [hflow]
        rfl
      dsimp only
      by_cases hbroken : (q.slot slot).broken = true
      · rw [if_pos hbroken]
        exact .broken hq hfit hbroken
      · have hwhole : (q.slot slot).broken = false := Bool.eq_false_iff.mpr hbroken
        rw [if_neg hbroken]
        cases hlink : connectLink site.machine fec (q.slot slot) i endpoint with
        | error code => exact .spoiled hq hfit hwhole code
        | ok result =>
          obtain ⟨hfree, hprovided, hpaired⟩ := connectLink_eq_ok hlink
          refine .done hq hfit hwhole hfree () result.2 _ (.linked _ ?_)
          rw [hflow]
          exact ⟨fec, rfl, hprovided, hpaired⟩

variable {h slot i}

/-- The three requests that work on a slot are of one shape. -/
theorem slotResult_engine {r : Request} (hr : r.worksOn? = some (h, slot, i)) :
    SlotResult site r h slot i (engine r site) := by
  cases r with
  | configure h' slot' i' config =>
    cases hr
    exact slotResult_configure site h slot i config
  | bind h' slot' i' endpoint =>
    cases hr
    exact slotResult_bind site h slot i endpoint
  | connect h' slot' i' endpoint =>
    cases hr
    exact slotResult_connect site h slot i endpoint
  | _ => exact absurd hr nofun

end SlotResult

/-- A slot that is there is taken down whole, with nothing else of the peer's slots, and any other is
not found. -/
theorem unlink_eq (site : Site) (h : PeerHandle) (slot : Slot) :
    (∃ q flow machine, site.state.peers.get? h = some q ∧ q.slots.get? slot ≠ none ∧
        site.unlink h slot = (.ok (), { site with machine }.setPeer h
          { q with slots := q.slots.erase slot, flow })) ∨
      (∀ q, site.state.peers.get? h = some q → q.slots.get? slot = none) ∧
        site.unlink h slot = (.error .notFound, site) := by
  unfold Site.unlink
  cases hq : site.state.peers.get? h with
  | none => exact .inr ⟨nofun, rfl⟩
  | some q =>
    dsimp only
    cases hslot : q.slots.get? slot with
    | none =>
      refine .inr ⟨fun q' hq' => ?_, rfl⟩
      rw [← Option.some.inj hq', hslot]
    | some s => exact .inl ⟨q, _, _, rfl, hslot ▸ nofun, rfl⟩

/-! ## Any event -/

/-- Whether a slot is taken down by this. -/
def Site.unlinks (site : Site) (h : PeerHandle) (slot : Slot) : Happening → Bool
  | .request (.unlink h' slot') => h' = h ∧ slot' = slot ∧ (site.unlink h' slot').1 = .ok ()
  | _ => false

theorem Site.unlinks_unlink {site : Site} {h h' : PeerHandle} {slot slot' : Slot} :
    site.unlinks h slot (.request (.unlink h' slot')) = true ↔
      h' = h ∧ slot' = slot ∧ (site.unlink h' slot').1 = .ok () := decide_eq_true_iff

/-- What an event makes of the slots of a peer that stays open. -/
inductive SlotsStep (site : Site) (h : PeerHandle) (q : PeerState) (e : Happening) :
    Table Slot SlotState → Prop
  | still : SlotsStep site h q e q.slots
  | spoiled (slot : Slot) (hwhole : (q.slot slot).broken = false) :
      SlotsStep site h q e (q.slots.insert slot (q.slot slot).spoil)
  | edited (slot : Slot) (i : Interface) (isLink : Bool) (s : SlotState)
      (hwhole : (q.slot slot).broken = false) (hfree : (q.slot slot).links.get? i = none)
      (hedit : SlotEdit q.flow.fec? i (q.slot slot) isLink s) :
      SlotsStep site h q e (q.slots.insert slot s)
  | unlinked (slot : Slot) (hunlinks : site.unlinks h slot e = true) :
      SlotsStep site h q e (q.slots.erase slot)

/-- What there is under a handle after an event: a peer that has just been opened, or the peer that
was there before, after a step. -/
inductive PeerStep (site : Site) (h : PeerHandle) (e : Happening) (q' : PeerState) : Prop
  | opened (hopens : site.opens h e = true) (hslots : q'.slots = .empty)
  | stepped (q : PeerState) (hq : site.state.peers.get? h = some q)
      (hfec : q'.flow.fec? = q.flow.fec?) (hstep : SlotsStep site h q e q'.slots)

section PeerStep

variable {site : Site} {h h₁ : PeerHandle} {e : Happening} {q₁ q' : PeerState}

theorem PeerStep.of_still (hq' : site.state.peers.get? h = some q') : PeerStep site h e q' :=
  .stepped q' hq' rfl .still

/-- One peer is put in the place of what it was, and no other peer changes. -/
theorem PeerStep.of_insert (q₁' : PeerState) (hq₁ : site.state.peers.get? h₁ = some q₁)
    (hfec : q₁'.flow.fec? = q₁.flow.fec?) (hstep : SlotsStep site h₁ q₁ e q₁'.slots)
    (hq' : (site.state.peers.insert h₁ q₁').get? h = some q') : PeerStep site h e q' := by
  rcases Table.get?_insert_cases hq' with ⟨rfl, rfl⟩ | ⟨-, hq'⟩
  · exact .stepped q₁ hq₁ hfec hstep
  · exact .of_still hq'

/-- A request about one slot is a step of the peer that has it. -/
theorem SlotResult.peerStep {r : Request} {slot : Slot} {i : Interface}
    {result : Answer r.Response × Site} (hresult : SlotResult site r h₁ slot i result)
    (hq' : result.2.state.peers.get? h = some q') : PeerStep site h (.request r) q' := by
  cases hresult with
  | unknown | unfit | broken => exact .of_still hq'
  | spoiled hq hfit hwhole code =>
    exact .of_insert (PeerState.setSlot _ slot _) hq rfl (.spoiled slot hwhole) hq'
  | done hq hfit hwhole hfree a machine s hedit =>
    exact .of_insert (PeerState.setSlot _ slot s) hq rfl
      (.edited slot i r.isLink s hwhole hfree hedit) hq'

namespace Site

/-- A peer that is opened starts without slots; the other peers stay. -/
theorem peerStep_openPeer {c : ContextHandle} {config : PeerConfig}
    (hq' : (site.openPeer c config).2.state.peers.get? h = some q') :
    PeerStep site h (.request (.peerOpen c config)) q' := by
  rcases get?_openPeer hq' with ⟨hopens, hopened⟩ | ⟨-, hq'⟩
  · exact .opened hopens hopened.slots
  · exact .of_still hq'

/-- Unlinking erases one slot of one peer. -/
theorem peerStep_unlink {slot : Slot}
    (hq' : (site.unlink h₁ slot).2.state.peers.get? h = some q') :
    PeerStep site h (.request (.unlink h₁ slot)) q' := by
  rcases site.unlink_cases h₁ slot with ⟨code, hunlink⟩ | ⟨q, machine, hq, hunlink⟩
  · rw [hunlink] at hq'
    exact .of_still hq'
  · have hdone : site.unlinks h₁ slot (.request (.unlink h₁ slot)) = true := by
      rw [unlinks, hunlink]
      exact decide_eq_true ⟨rfl, rfl, rfl⟩
    rw [hunlink] at hq'
    refine .of_insert { q with
      slots := q.slots.erase slot, flow := (collectFlow site.machine q).1.forget slot }
      hq ?_ (.unlinked slot hdone) hq'
    dsimp only
    rw [Flow.fec?_forget, Flow.fec?_collectFlow]

/-- Reading touches no slot. -/
theorem peerStep_read {n : Nat} (hq' : (site.read h₁ n).2.state.peers.get? h = some q') :
    PeerStep site h e q' := by
  rcases site.read_cases h₁ n with ⟨code, hread⟩ | ⟨q, p, machine, pacer, hq, hflow, -, hread⟩
  · rw [hread] at hq'
    exact .of_still hq'
  · rw [hread] at hq'
    refine .of_insert { q with
      pacer, flow := .receiving ((collect site.machine q p).1.fill n).2 } hq ?_ .still hq'
    rw [hflow]
    rfl

/-- Writing touches no slot. -/
theorem peerStep_write {frame : Frame}
    (hq' : (site.write h₁ frame).2.state.peers.get? h = some q') : PeerStep site h e q' := by
  rcases site.write_cases h₁ frame with
    ⟨code, hwrite⟩ | ⟨q, fec, stream, p, machine, pacer, hq, hflow, -, hwrite⟩
  · rw [hwrite] at hq'
    exact .of_still hq'
  · rw [hwrite] at hq'
    refine .of_insert { q with pacer, flow := .sending fec stream (p.push frame).2 } hq ?_ .still hq'
    rw [hflow]
    rfl

/-- Taking what waits touches no slot. -/
theorem peerStep_settle (hq' : (site.settle h₁).state.peers.get? h = some q') :
    PeerStep site h e q' := by
  rcases site.settle_cases h₁ with ⟨hsettle, -⟩ | ⟨q, machine, hq, hsettle⟩
  · rw [hsettle] at hq'
    exact .of_still hq'
  · rw [hsettle] at hq'
    exact .of_insert { q with flow := (collectFlow site.machine q).1 } hq
      (Flow.fec?_collectFlow site.machine q) .still hq'

/-- Whatever happens, every peer takes one of the steps, if it has not just been opened. -/
theorem peerStep_after (e : Happening) (hq' : (site.after e).state.peers.get? h = some q') :
    PeerStep site h e q' := by
  cases e with
  | machine change => exact .of_still hq'
  | settle h₁ => exact peerStep_settle hq'
  | request r =>
    cases r with
    | contextOpen config => exact .of_still (site.peers_openContext config ▸ hq')
    | registerEncoding c id encoding =>
      exact .of_still (site.peers_registerEncoding c id encoding ▸ hq')
    | contextClose c => exact .of_still (site.peers_closeContext c ▸ hq')
    | peerOpen c config => exact peerStep_openPeer hq'
    | configure h₁ slot i config => exact (slotResult_configure site h₁ slot i config).peerStep hq'
    | bind h₁ slot i endpoint => exact (slotResult_bind site h₁ slot i endpoint).peerStep hq'
    | connect h₁ slot i endpoint => exact (slotResult_connect site h₁ slot i endpoint).peerStep hq'
    | unlink h₁ slot => exact peerStep_unlink hq'
    | peerClose h₁ => exact .of_still (site.get?_of_closePeer h₁ hq')
    | read h₁ n => exact peerStep_read hq'
    | write h₁ frame => exact peerStep_write hq'

end Site
end PeerStep
end Loopback
end AudioLink
