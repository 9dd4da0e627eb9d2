import AudioLink.Proofs.Loopback.SlotRules
import AudioLink.Proofs.Loopback.Traffic

/-
The sockets by which senders send.

An interface of a slot sends from the moment on at which it is connected, until its slot breaks or is
taken down, or its peer is gone. It is connected by a new socket, so as long as the machine takes no
number of a socket back, nothing else ever sends by this socket, neither before nor later, and once
the interface has stopped sending it does not send by this socket again.
-/
set_option autoImplicit false

namespace AudioLink.Loopback

/-! ## Of a slot and of a peer -/

namespace SlotState

/-- The socket that an interface sends on: its slot is whole and it is connected. -/
theorem sender?_eq_some_iff {s : SlotState} {i : Interface} {socket : SocketId} :
    s.sender? i = some socket ↔ s.broken = false ∧ s.links.get? i = some (.connected socket) := by
  unfold sender?
  split
  · next hbroken hlink =>
    rw [hbroken, hlink, Option.some.injEq, Option.some.injEq, Link.connected.injEq]
    exact (and_iff_right rfl).symm
  · next hother => exact ⟨nofun, fun h => absurd h.2 (hother socket h.1)⟩

end SlotState

namespace PeerState

/-- The socket by which an interface of a slot sends, if it does. -/
def sender? (q : PeerState) (slot : Slot) (i : Interface) : Option SocketId :=
  (q.slots.get? slot).bind (SlotState.sender? · i)

variable {q : PeerState} {slot slot₁ : Slot} {i : Interface} {socket : SocketId}

/-- The same of a slot of a peer, which must be there. -/
theorem sender?_eq_some_iff :
    q.sender? slot i = some socket ↔ ∃ s, q.slots.get? slot = some s ∧ s.sender? i = some socket :=
  Option.bind_eq_some_iff

/-- A slot that is not there sends on nothing. -/
theorem sender?_slot (q : PeerState) (slot : Slot) (i : Interface) :
    (q.slot slot).sender? i = q.sender? slot i := by
  rw [PeerState.slot, sender?]
  cases q.slots.get? slot with
  | some s => rfl
  | none =>
    cases i with
    | _ => rfl

/-- What has been done on one slot makes no difference to the others. -/
theorem sender?_setSlot {s : SlotState} (hsends : (q.setSlot slot₁ s).sender? slot i = some socket) :
    slot = slot₁ ∧ s.sender? i = some socket ∨ slot ≠ slot₁ ∧ q.sender? slot i = some socket := by
  obtain ⟨s', hs', hsender⟩ := sender?_eq_some_iff.mp hsends
  rcases Table.get?_insert_cases hs' with ⟨rfl, rfl⟩ | ⟨hother, hs'⟩
  · exact .inl ⟨rfl, hsender⟩
  · exact .inr ⟨hother, sender?_eq_some_iff.mpr ⟨s', hs', hsender⟩⟩

end PeerState

/-- The socket by which an interface of a slot sends, if it does. -/
def Site.sender? (site : Site) (h : PeerHandle) (slot : Slot) (i : Interface) : Option SocketId :=
  (site.state.peers.get? h).bind (PeerState.sender? · slot i)

/-- The same of a peer of a site, which must be there. -/
theorem Site.sender?_eq_some_iff {site : Site} {h : PeerHandle} {slot : Slot} {i : Interface}
    {socket : SocketId} : site.sender? h slot i = some socket ↔
      ∃ q, site.state.peers.get? h = some q ∧ q.sender? slot i = some socket :=
  Option.bind_eq_some_iff

/-! ## After one happening -/

section Sends

variable {site : Site} {h h₁ : PeerHandle} {q₁ : PeerState} {slot slot₁ : Slot} {i i₁ : Interface}
  {socket : SocketId}

/-- A peer that is put in the place of what it was sends by the sockets that it had. -/
theorem sender?_setPeer {machine : Machine} {q₁' : PeerState}
    (hq₁ : site.state.peers.get? h₁ = some q₁)
    (hsender : ({ site with machine }.setPeer h₁ q₁').sender? h slot i = some socket)
    (hslots : q₁'.sender? slot i = some socket → q₁.sender? slot i = some socket) :
    site.sender? h slot i = some socket := by
  obtain ⟨q', hq', hsends⟩ := Site.sender?_eq_some_iff.mp hsender
  rcases Table.get?_insert_cases hq' with ⟨rfl, rfl⟩ | ⟨-, hq'⟩
  · exact Site.sender?_eq_some_iff.mpr ⟨q₁, hq₁, hslots hsends⟩
  · exact Site.sender?_eq_some_iff.mpr ⟨q', hq', hsends⟩

/-- An edit of a slot adds a sending interface only by linking it, and only to a sender. -/
theorem SlotEdit.sender? {fec? : Option FecEncoding} {s s' : SlotState} {isLink : Bool}
    (hedit : SlotEdit fec? i₁ s isLink s') (hsender : s'.sender? i = some socket) :
    s.sender? i = some socket ∨ i = i₁ ∧ isLink = true ∧ fec? ≠ none := by
  cases hedit with
  | configured config => exact .inl hsender
  | linked link hpermits =>
    obtain ⟨hwhole, hlink⟩ := SlotState.sender?_eq_some_iff.mp hsender
    rw [PerInterface.get?_set] at hlink
    by_cases hi : i = i₁
    · rw [if_pos hi] at hlink
      obtain rfl := Option.some.inj hlink
      obtain ⟨fec, hfec, -⟩ := hpermits
      exact .inr ⟨hi, rfl, hfec ▸ Option.some_ne_none fec⟩
    · rw [if_neg hi] at hlink
      exact .inl (SlotState.sender?_eq_some_iff.mpr ⟨hwhole, hlink⟩)

/-- What is done on an interface of a slot makes no interface send but this one, and only if it is
connected by it. -/
theorem SlotResult.sender? {r : Request} {result : Answer r.Response × Site}
    (hresult : SlotResult site r h₁ slot₁ i₁ result)
    (hsender : result.2.sender? h slot i = some socket) :
    site.sender? h slot i = some socket ∨
      (h = h₁ ∧ slot = slot₁ ∧ i = i₁) ∧ r.isLink = true ∧ result.1.failure? = none ∧
        ∃ q : PeerState, q.flow.takes r = true ∧ q.flow.fec? ≠ none := by
  -- Only the slot that is worked on can have changed.
  have hslot {q : PeerState} {machine : Machine} {s : SlotState}
      (hq : site.state.peers.get? h₁ = some q)
      (hset : ({ site with machine }.setSlot h₁ q slot₁ s).sender? h slot i = some socket) :
      site.sender? h slot i = some socket ∨
        h = h₁ ∧ slot = slot₁ ∧ s.sender? i = some socket := by
    obtain ⟨q', hq', hsends⟩ := Site.sender?_eq_some_iff.mp hset
    rcases Table.get?_insert_cases hq' with ⟨rfl, rfl⟩ | ⟨-, hq'⟩
    · rcases PeerState.sender?_setSlot hsends with ⟨rfl, hnew⟩ | ⟨-, hold⟩
      · exact .inr ⟨rfl, rfl, hnew⟩
      · exact .inl (Site.sender?_eq_some_iff.mpr ⟨q, hq, hold⟩)
    · exact .inl (Site.sender?_eq_some_iff.mpr ⟨q', hq', hsends⟩)
  cases hresult with
  | unknown | unfit | broken => exact .inl hsender
  | spoiled hq hfit hwhole code =>
    rcases hslot hq hsender with hbefore | ⟨-, -, hspoiled⟩
    · exact .inl hbefore
    · exact absurd (SlotState.sender?_eq_some_iff.mp hspoiled).1.symm Bool.false_ne_true
  | @done q hq hfit hwhole hfree a machine s hedit =>
    rcases hslot hq hsender with hbefore | ⟨rfl, rfl, hsends⟩
    · exact .inl hbefore
    · rcases hedit.sender? hsends with hbefore | ⟨rfl, hlink, hfec⟩
      · rw [q.sender?_slot] at hbefore
        exact .inl (Site.sender?_eq_some_iff.mpr ⟨q, hq, hbefore⟩)
      · exact .inr ⟨⟨rfl, rfl, rfl⟩, hlink, rfl, q, hfit, hfec⟩

/-- An interface that has been connected sends by a new socket, and its peer is a sender. What is sent
by the socket goes to the address of the endpoint. -/
theorem sender?_connect {endpoint : Endpoint}
    (hok : (site.connect h slot i endpoint).1.failure? = none) :
    (site.connect h slot i endpoint).2.sender? h slot i = some ⟨site.machine.network.next⟩ ∧
      (site.connect h slot i endpoint).2.machine.network.next = site.machine.network.next + 1 ∧
      (∃ remote, resolve site.machine.host endpoint false = .ok remote ∧
        (site.connect h slot i endpoint).2.machine.network.remote? ⟨site.machine.network.next⟩ =
          some remote) ∧
      ∃ fec stream p, IsSending (site.connect h slot i endpoint).2.state.peers h fec stream p := by
  -- An answer without a failure has passed every check, and the link is in its place.
  unfold Site.connect at hok ⊢
  cases hq : site.state.peers.get? h with
  | none =>
    rw [hq] at hok
    exact absurd hok nofun
  | some q =>
    rw [hq] at hok
    dsimp only at hok ⊢
    cases hflow : q.flow with
    | receiving p =>
      rw [hflow] at hok
      exact absurd hok nofun
    | sending fec stream p =>
      rw [hflow] at hok
      dsimp only at hok ⊢
      split at hok
      · exact absurd hok nofun
      · next hbroken =>
        rw [if_neg hbroken]
        cases hlink : connectLink site.machine fec (q.slot slot) i endpoint with
        | error code =>
          rw [hlink] at hok
          exact absurd hok nofun
        | ok result =>
          obtain ⟨socket, machine⟩ := result
          obtain ⟨⟨rfl, hnext, -⟩, hremote⟩ := opens_of_connectLink hlink
          refine ⟨?_, hnext, hremote, fec, stream, p, _, Table.get?_insert_self _ _ _, hflow⟩
          refine Site.sender?_eq_some_iff.mpr ⟨_, Table.get?_insert_self _ _ _, ?_⟩
          refine PeerState.sender?_eq_some_iff.mpr ⟨_, Table.get?_insert_self _ _ _, ?_⟩
          refine SlotState.sender?_eq_some_iff.mpr ⟨Bool.eq_false_iff.mpr hbroken, ?_⟩
          rw [PerInterface.get?_set, if_pos rfl]

/-- A peer that has just been opened sends on nothing. -/
theorem sender?_openPeer {c : ContextHandle} {config : PeerConfig}
    (hsender : (site.openPeer c config).2.sender? h slot i = some socket) :
    site.opens h (.request (.peerOpen c config)) = false ∧ site.sender? h slot i = some socket := by
  obtain ⟨q', hq', hsends⟩ := Site.sender?_eq_some_iff.mp hsender
  rcases Site.get?_openPeer hq' with ⟨-, hopened⟩ | ⟨hopens, hq'⟩
  · rw [PeerState.sender?, hopened.slots] at hsends
    exact absurd hsends nofun
  · exact ⟨hopens, Site.sender?_eq_some_iff.mpr ⟨q', hq', hsends⟩⟩

/-- Unlinking makes nothing send. -/
theorem sender?_unlink (hsender : (site.unlink h₁ slot₁).2.sender? h slot i = some socket) :
    site.sender? h slot i = some socket := by
  rcases site.unlink_cases h₁ slot₁ with ⟨code, hunlink⟩ | ⟨q, machine, hq, hunlink⟩
  · rw [hunlink] at hsender
    exact hsender
  · rw [hunlink] at hsender
    refine sender?_setPeer hq hsender fun hsends => ?_
    obtain ⟨s, hs, hsends⟩ := PeerState.sender?_eq_some_iff.mp hsends
    exact PeerState.sender?_eq_some_iff.mpr ⟨s, (Table.get?_of_get?_erase hs).2, hsends⟩

/-- Closing a peer makes nothing send. -/
theorem sender?_closePeer (hsender : (site.closePeer h₁).2.sender? h slot i = some socket) :
    site.sender? h slot i = some socket := by
  obtain ⟨q, hq, hsends⟩ := Site.sender?_eq_some_iff.mp hsender
  exact Site.sender?_eq_some_iff.mpr ⟨q, site.get?_of_closePeer h₁ hq, hsends⟩

/-- Reading makes nothing send on another socket. -/
theorem sender?_read {n : Nat} (hsender : (site.read h₁ n).2.sender? h slot i = some socket) :
    site.sender? h slot i = some socket := by
  rcases site.read_cases h₁ n with ⟨code, hread⟩ | ⟨q, p, machine, pacer, hq, -, -, hread⟩
  · rw [hread] at hsender
    exact hsender
  · rw [hread] at hsender
    exact sender?_setPeer hq hsender id

/-- Writing makes nothing send on another socket. -/
theorem sender?_write {frame : Frame}
    (hsender : (site.write h₁ frame).2.sender? h slot i = some socket) :
    site.sender? h slot i = some socket := by
  rcases site.write_cases h₁ frame with
    ⟨code, hwrite⟩ | ⟨q, fec, stream, p, machine, pacer, hq, -, -, hwrite⟩
  · rw [hwrite] at hsender
    exact hsender
  · rw [hwrite] at hsender
    exact sender?_setPeer hq hsender id

/-- Taking what waits makes nothing send on another socket. -/
theorem sender?_settle (hsender : (site.settle h₁).sender? h slot i = some socket) :
    site.sender? h slot i = some socket := by
  rcases site.settle_cases h₁ with ⟨hsettle, -⟩ | ⟨q, machine, hq, hsettle⟩
  · rw [hsettle] at hsender
    exact hsender
  · rw [hsettle] at hsender
    exact sender?_setPeer hq hsender id

/-- An interface that sends after an event has sent before by the same socket, or it has just been
connected by a new one. -/
inductive Sends (site : Site) (h : PeerHandle) (slot : Slot) (i : Interface) (e : Happening)
    (socket : SocketId) : Prop
  | still (hsender : site.sender? h slot i = some socket)
  | connected (endpoint : Endpoint) (he : e = .request (.connect h slot i endpoint))
      (hsocket : socket = ⟨site.machine.network.next⟩)
      (hnext : (site.after e).machine.network.next = site.machine.network.next + 1)

/-- The only request by which an interface of a sender can be linked is to connect it. -/
theorem exists_of_takes {r : Request} {flow : Flow} (hr : r.worksOn? = some (h, slot, i))
    (hlink : r.isLink = true) (htakes : flow.takes r = true) (hfec : flow.fec? ≠ none) :
    ∃ endpoint, r = .connect h slot i endpoint := by
  cases r with
  | connect h₁ slot₁ i₁ endpoint =>
    cases hr
    exact ⟨endpoint, rfl⟩
  | bind h₁ slot₁ i₁ endpoint =>
    cases flow with
    | sending fec stream p => exact absurd htakes Bool.false_ne_true
    | receiving p => exact absurd rfl hfec
  | _ => exact absurd hlink Bool.false_ne_true

/-- What sends after a request about a slot has sent before or is what the request linked. -/
theorem sends_engine {r : Request} (hr : r.worksOn? = some (h₁, slot₁, i₁))
    (hsender : (engine r site).2.sender? h slot i = some socket) :
    Sends site h slot i (.request r) socket := by
  rcases (slotResult_engine site hr).sender? hsender with
    hbefore | ⟨⟨rfl, rfl, rfl⟩, hlink, hanswer, q, htakes, hfec⟩
  · exact .still hbefore
  · obtain ⟨endpoint, rfl⟩ := exists_of_takes hr hlink htakes hfec
    obtain ⟨hnew, hnext, -⟩ := sender?_connect hanswer
    exact .connected endpoint rfl (Option.some.inj (hsender.symm.trans hnew)) hnext

/-- What sends after any event has sent before or is what the event connected. -/
theorem sends_after (e : Happening)
    (hsender : (site.after e).sender? h slot i = some socket) : Sends site h slot i e socket := by
  cases e with
  | machine change => exact .still hsender
  | settle h₁ => exact .still (sender?_settle hsender)
  | request r =>
    cases r with
    | contextOpen config =>
      refine .still ?_
      rw [Site.sender?, ← site.peers_openContext config]
      exact hsender
    | registerEncoding c id encoding =>
      refine .still ?_
      rw [Site.sender?, ← site.peers_registerEncoding c id encoding]
      exact hsender
    | contextClose c =>
      refine .still ?_
      rw [Site.sender?, ← site.peers_closeContext c]
      exact hsender
    | peerOpen c config => exact .still (sender?_openPeer hsender).2
    | unlink h₁ slot₁ => exact .still (sender?_unlink hsender)
    | peerClose h₁ => exact .still (sender?_closePeer hsender)
    | read h₁ n => exact .still (sender?_read hsender)
    | write h₁ frame => exact .still (sender?_write hsender)
    | configure h₁ slot₁ i₁ config => exact sends_engine rfl hsender
    | bind h₁ slot₁ i₁ endpoint => exact sends_engine rfl hsender
    | connect h₁ slot₁ i₁ endpoint => exact sends_engine rfl hsender

/-- Nothing sends by the slots of a peer that has just been opened. -/
theorem opens_eq_false {e : Happening} (hsender : (site.after e).sender? h slot i = some socket) :
    site.opens h e = false := by
  cases e with
  | machine change => rfl
  | settle h₁ => rfl
  | request r =>
    cases r with
    | peerOpen c config => exact (sender?_openPeer hsender).1
    | _ => rfl

/-- An interface goes on sending by its socket as long as its peer is there and its slot is neither
broken nor made anew. -/
theorem sender?_afterAll {q : PeerState} {events : List Happening}
    (hsender : site.sender? h slot i = some socket) (hkept : renewed h slot events site = false)
    (hq : (site.afterAll events).state.peers.get? h = some q)
    (hwhole : (q.slot slot).broken = false) :
    (site.afterAll events).sender? h slot i = some socket := by
  obtain ⟨q₀, hq₀, hsends⟩ := Site.sender?_eq_some_iff.mp hsender
  obtain ⟨s₀, hs₀, hsends⟩ := PeerState.sender?_eq_some_iff.mp hsends
  obtain ⟨-, hlink⟩ := SlotState.sender?_eq_some_iff.mp hsends
  have hlinked : site.HasSlot h slot (IsLinked i (.connected socket) (s₀.configs.get? i)) := by
    intro q₁ hq₁
    obtain rfl := Option.some.inj (hq₀.symm.trans hq₁)
    exact ⟨s₀, hs₀, hlink, rfl⟩
  obtain ⟨s, hs, hlink', -⟩ := hlinked.afterAll (lasting_isLinked i _ _) events hkept q hq
  rw [slot_of_get? hs] at hwhole
  exact Site.sender?_eq_some_iff.mpr ⟨q, hq, PeerState.sender?_eq_some_iff.mpr
    ⟨s, hs, SlotState.sender?_eq_some_iff.mpr ⟨hwhole, hlink'⟩⟩⟩

/-! ## Sockets and interfaces -/

/-- A socket has been opened, and nothing sends by it but, at most, this interface of this slot. -/
structure Site.Reserves (site : Site) (socket : SocketId) (h : PeerHandle) (slot : Slot)
    (i : Interface) : Prop where
  opened : socket.index < site.machine.network.next
  only : ∀ h' slot' i', site.sender? h' slot' i' = some socket → h' = h ∧ slot' = slot ∧ i' = i

/-- Nobody new comes to send by a socket that is there: what is connected gets a socket of its own. -/
theorem Site.Reserves.still (hsite : site.Reserves socket h slot i) {e : Happening}
    {h' : PeerHandle} {slot' : Slot} {i' : Interface}
    (hsender : (site.after e).sender? h' slot' i' = some socket) :
    site.sender? h' slot' i' = some socket := by
  cases sends_after e hsender with
  | still hbefore => exact hbefore
  | connected endpoint he hsocket hnext =>
    have hopened := hsite.opened
    rw [hsocket] at hopened
    exact absurd hopened (Nat.lt_irrefl _)

/-- A socket stays reserved through an event. -/
theorem Site.Reserves.after (hsite : site.Reserves socket h slot i) {e : Happening}
    (he : e.KeepsNumbers) : (site.after e).Reserves socket h slot i where
  opened := Nat.lt_of_lt_of_le hsite.opened (site.next_le_after he)
  only h' slot' i' hsender := hsite.only h' slot' i' (hsite.still hsender)

/-- A socket stays reserved through a run. -/
theorem Site.Reserves.afterAll (hsite : site.Reserves socket h slot i) {events : List Happening}
    (hevents : ∀ e ∈ events, e.KeepsNumbers) : (site.afterAll events).Reserves socket h slot i := by
  induction events generalizing site with
  | nil => exact hsite
  | cons e events ih =>
    obtain ⟨he, hrest⟩ := List.forall_mem_cons.mp hevents
    exact ih (hsite.after he) hrest

/-- All sockets by which anything sends have been opened. -/
def Site.OpensBeforeSending (site : Site) : Prop :=
  ∀ h slot i socket, site.sender? h slot i = some socket →
    socket.index < site.machine.network.next

namespace Site.OpensBeforeSending

/-- Nothing sends at first. -/
theorem start (machine : Machine) : ({ machine } : Site).OpensBeforeSending :=
  fun _ _ _ _ hsender => absurd hsender nofun

/-- No event makes a peer send on a socket that has not been opened. -/
theorem after (hsite : site.OpensBeforeSending) {e : Happening} (he : e.KeepsNumbers) :
    (site.after e).OpensBeforeSending := by
  intro h slot i socket hsender
  cases sends_after e hsender with
  | still hbefore => exact Nat.lt_of_lt_of_le (hsite h slot i socket hbefore) (site.next_le_after he)
  | connected endpoint he hsocket hnext =>
    rw [hsocket, hnext]
    exact Nat.lt_succ_self _

/-- No run makes a peer send on a socket that has not been opened. -/
theorem afterAll (hsite : site.OpensBeforeSending) {events : List Happening}
    (hevents : ∀ e ∈ events, e.KeepsNumbers) : (site.afterAll events).OpensBeforeSending := by
  induction events generalizing site with
  | nil => exact hsite
  | cons e events ih =>
    obtain ⟨he, hrest⟩ := List.forall_mem_cons.mp hevents
    exact ih (hsite.after he) hrest

/-- The socket by which an interface has been connected is for this interface only. -/
theorem reserves (hsite : site.OpensBeforeSending) {endpoint : Endpoint}
    (hnext : (site.connect h slot i endpoint).2.machine.network.next =
      site.machine.network.next + 1) :
    (site.connect h slot i endpoint).2.Reserves ⟨site.machine.network.next⟩ h slot i where
  opened := hnext ▸ Nat.lt_succ_self _
  only h' slot' i' hsender := by
    cases sends_after (.request (.connect h slot i endpoint)) hsender with
    | still hbefore => exact absurd (hsite h' slot' i' _ hbefore) (Nat.lt_irrefl _)
    | connected endpoint' he hsocket hnext =>
      cases he
      exact ⟨rfl, rfl, rfl⟩

end Site.OpensBeforeSending

end Sends

end AudioLink.Loopback
