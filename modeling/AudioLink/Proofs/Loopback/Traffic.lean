import AudioLink.Proofs.Checks
import AudioLink.Proofs.Loopback.Writing

/-
What goes over the network.

Nothing but a write sends anything: whatever else is asked of an engine, the datagrams that wait are
at most those that have been waiting. A write hands datagrams to sockets, one after the other. What
becomes of a datagram is decided by the sockets there are (`Network.arrival?`): it comes to wait behind
the others at the socket that receives at its destination, or it is gone. Sending changes no socket,
so this is decided for all datagrams of a write before the first of them is sent.

Sockets are numbered as they are opened, and the engine never takes a number back.
-/
set_option autoImplicit false

namespace AudioLink

/-! ## What becomes of a datagram -/

namespace Network

/-- Where a datagram comes to wait that is handed to a socket: at the socket that receives at the
remote address. It is gone if the socket is not connected, if the machine does not reach the address,
if it is too long to be sent, or if nobody receives there. -/
def arrival? (host : Host) (n : Network) (d : SocketId × Bytes) : Option (SocketId × Bytes) :=
  (n.remote? d.1).bind fun remote =>
    if host.reaches remote.ip ∧ d.2.length ≤ maxDatagram then (n.receiver? remote).map (·, d.2)
    else none

variable {host : Host} {n : Network}

/-- What can be sent to an address comes to wait at the socket that receives there, if there is one. -/
theorem sendTo_of_sent {address : SocketAddress} {bytes : Bytes}
    (hsent : host.reaches address.ip ∧ bytes.length ≤ maxDatagram) :
    n.sendTo host address bytes =
      .ok { n with waiting := n.waiting ++ ((n.receiver? address).map (·, bytes)).toList } := by
  have hreached : ¬ host.reaches address.ip = false := Bool.not_eq_false _ ▸ hsent.1
  rw [sendTo, if_neg hreached, if_neg (Nat.not_lt_of_le hsent.2)]
  cases n.receiver? address with
  | some id => rfl
  | none =>
    dsimp only
    rw [Option.map_none, Option.toList_none, List.append_nil]

/-- What cannot be sent is a failure, and there are no others. -/
theorem sendTo_of_not_sent {address : SocketAddress} {bytes : Bytes}
    (hsent : ¬ (host.reaches address.ip ∧ bytes.length ≤ maxDatagram)) :
    ∃ fault, n.sendTo host address bytes = .error fault := by
  rw [sendTo]
  by_cases hreached : host.reaches address.ip = false
  · exact ⟨_, if_pos hreached⟩
  · have hlong : maxDatagram < bytes.length := by
      refine Nat.lt_of_not_le fun hshort => hsent ⟨?_, hshort⟩
      exact eq_true_of_ne_false hreached
    exact ⟨_, by rw [if_neg hreached, if_pos hlong]⟩

/-- Sending a datagram by a socket adds to what waits, and changes nothing else. -/
theorem post_eq (host : Host) (n : Network) (d : SocketId × Bytes) :
    n.post host d.1 d.2 = { n with waiting := n.waiting ++ (n.arrival? host d).toList } := by
  have hgone : n = { n with waiting := n.waiting ++ ([] : List (SocketId × Bytes)) } := by
    rw [List.append_nil]
  rw [post, send, arrival?]
  cases n.remote? d.1 with
  | none => exact hgone
  | some remote =>
    rw [Option.bind_some]
    by_cases hsent : host.reaches remote.ip ∧ d.2.length ≤ maxDatagram
    · rw [if_pos hsent]
      dsimp only
      rw [sendTo_of_sent hsent]
    · obtain ⟨fault, hfault⟩ := sendTo_of_not_sent (n := n) hsent
      rw [if_neg hsent]
      dsimp only
      rw [hfault]
      exact hgone

/-- What becomes of datagrams does not depend on what waits already. -/
theorem arrival?_waiting (host : Host) (n : Network) (waiting : List (SocketId × Bytes)) :
    ({ n with waiting } : Network).arrival? host = n.arrival? host := rfl

/-- Datagrams that are sent one after the other come to wait in this order. -/
theorem foldl_post (host : Host) (n : Network) (datagrams : List (SocketId × Bytes)) :
    datagrams.foldl (fun n d => n.post host d.1 d.2) n =
      { n with waiting := n.waiting ++ datagrams.filterMap (n.arrival? host) } := by
  induction datagrams generalizing n with
  | nil => rw [List.foldl_nil, List.filterMap_nil, List.append_nil]
  | cons d datagrams ih =>
    rw [List.foldl_cons, ih, post_eq, arrival?_waiting, List.append_assoc]
    congr 1
    rw [List.filterMap_cons]
    cases n.arrival? host d with
    | none => rfl
    | some x => rfl

end Network

/-! ## Networks to which nothing is sent -/

/-- Between two moments no socket has lost its number, and no datagram has been sent. -/
structure Quiet (m m' : Machine) : Prop where
  next : m.network.next ≤ m'.network.next
  waiting : m'.network.waiting.Sublist m.network.waiting

namespace Quiet

/-- Nothing is sent if the network stays as it is. -/
theorem of_network_eq {m m' : Machine} (hnetwork : m'.network = m.network) : Quiet m m' where
  next := Nat.le_of_eq (congrArg Network.next hnetwork.symm)
  waiting := hnetwork ▸ List.Sublist.refl _

/-- Nothing is sent while nothing happens. -/
theorem refl (m : Machine) : Quiet m m := of_network_eq rfl

theorem trans {m m' m'' : Machine} (h : Quiet m m') (h' : Quiet m' m'') : Quiet m m'' :=
  ⟨Nat.le_trans h.next h'.next, h'.waiting.trans h.waiting⟩

/-- To close sockets is to give up what waits for them. -/
theorem closeAll (m : Machine) (ids : List SocketId) :
    Quiet m { m with network := m.network.closeAll ids } := by
  induction ids generalizing m with
  | nil => exact .refl m
  | cons id ids ih =>
    have hclose : Quiet m { m with network := m.network.close id } :=
      ⟨Nat.le_refl _, List.filter_sublist⟩
    exact hclose.trans (ih { m with network := m.network.close id })

end Quiet

namespace Loopback

/-- To wait for the next frame sends nothing. -/
theorem quiet_pace (m : Machine) (pacer : Option Pacer) (samples : Nat) :
    Quiet m (pace m pacer samples).2 := .of_network_eq (network_pace m pacer samples)

theorem host_pace (m : Machine) (pacer : Option Pacer) (samples : Nat) :
    (pace m pacer samples).2.host = m.host := by
  cases pacer with
  | none => rfl
  | some pacer => rfl

/-- To take datagrams sends nothing. -/
theorem quiet_collect (m : Machine) (q : PeerState) (p : Playout) : Quiet m (collect m q p).2 :=
  ⟨Nat.le_refl _, List.filter_sublist⟩

theorem quiet_collectFlow (m : Machine) (q : PeerState) : Quiet m (collectFlow m q).2 := by
  unfold collectFlow
  cases q.flow with
  | sending fec stream p => exact .refl m
  | receiving p => exact quiet_collect m q p

/-! ### Sockets that are opened -/

/-- A socket has been opened: it got the next number. -/
structure Opens (m : Machine) (socket : SocketId) (m' : Machine) : Prop where
  socket : socket = ⟨m.network.next⟩
  next : m'.network.next = m.network.next + 1
  waiting : m'.network.waiting = m.network.waiting

/-- To open a socket sends nothing. -/
theorem Opens.quiet {m m' : Machine} {socket : SocketId} (h : Opens m socket m') : Quiet m m' :=
  ⟨h.next ▸ Nat.le_succ _, h.waiting ▸ List.Sublist.refl _⟩

/-- A socket that is bound is added to those that there are. -/
theorem exists_of_bind? {host : Host} {n : Network} {address : SocketAddress} {shared : Bool}
    {group : Option Ip} {added : SocketId × Network}
    (hbind : n.bind? host address shared group = some added) : ∃ s, n.add s = added := by
  obtain ⟨-, hbind⟩ := Option.ite_none_right_eq_some.mp hbind
  obtain ⟨own, -, hadd⟩ := Option.map_eq_some_iff.mp hbind
  exact ⟨_, hadd⟩

/-- A socket that is connected is added to those that there are. -/
theorem exists_of_connect? {host : Host} {n : Network} {remote : SocketAddress}
    {outgoing groupsBy : Option Ip} {shared : Bool} {added : SocketId × Network}
    (hconnect : n.connect? host remote outgoing groupsBy shared = some added) :
    ∃ s, s.remote = some remote ∧ n.add s = added := by
  obtain ⟨-, hconnect⟩ := Option.ite_none_right_eq_some.mp hconnect
  obtain ⟨own, -, hadd⟩ := Option.map_eq_some_iff.mp hconnect
  exact ⟨_, rfl, hadd⟩

theorem opens_of_opened {m m' : Machine} {socket : SocketId} {added? : Option (SocketId × Network)}
    (hadds : ∀ added, added? = some added → ∃ s, m.network.add s = added)
    (hopened : opened m added? = .ok (socket, m')) : Opens m socket m' := by
  cases added? with
  | none => exact absurd hopened nofun
  | some added =>
    obtain ⟨s, rfl⟩ := hadds added rfl
    obtain ⟨rfl, rfl⟩ := Prod.mk.inj (Except.ok.inj hopened)
    exact ⟨rfl, rfl, rfl⟩

/-- An interface that is bound has got a new socket. -/
theorem opens_of_bindLink {m m' : Machine} {s : SlotState} {i : Interface}
    {endpoint bound : Endpoint} {socket : SocketId}
    (hlink : bindLink m s i endpoint = .ok ((bound, socket), m')) : Opens m socket m' := by
  obtain ⟨protocol, -, hlink⟩ := bind_eq_ok_iff.mp hlink
  obtain ⟨address, -, hlink⟩ := bind_eq_ok_iff.mp hlink
  obtain ⟨group, -, hlink⟩ := bind_eq_ok_iff.mp hlink
  obtain ⟨⟨id, m₁⟩, hopened, hlink⟩ := bind_eq_ok_iff.mp hlink
  have hopens : Opens m id m₁ := opens_of_opened (fun _ => exists_of_bind?) hopened
  dsimp only at hlink
  split at hlink
  · obtain ⟨hbound, rfl⟩ := Prod.mk.inj (Except.ok.inj hlink)
    obtain ⟨-, rfl⟩ := Prod.mk.inj hbound
    exact hopens
  · exact absurd hlink nofun

/-- An interface that is connected has got a new socket, and this sends to the address of the
endpoint. -/
theorem opens_of_connectLink {m m' : Machine} {fec : FecEncoding} {s : SlotState} {i : Interface}
    {endpoint : Endpoint} {socket : SocketId}
    (hlink : connectLink m fec s i endpoint = .ok (socket, m')) : Opens m socket m' ∧
      ∃ remote, resolve m.host endpoint false = .ok remote ∧
        m'.network.remote? socket = some remote := by
  obtain ⟨protocol, -, hlink⟩ := bind_eq_ok_iff.mp hlink
  dsimp only at hlink
  split at hlink
  · exact absurd hlink nofun
  · obtain ⟨-, -, hlink⟩ := bind_eq_ok_iff.mp hlink
    obtain ⟨remote, hremote, hlink⟩ := bind_eq_ok_iff.mp hlink
    obtain ⟨outgoing, -, hlink⟩ := bind_eq_ok_iff.mp hlink
    obtain ⟨groupsBy, -, hopened⟩ := bind_eq_ok_iff.mp hlink
    generalize hadded? : m.network.connect? m.host remote outgoing groupsBy
      (s.config i).reuseAddress = added? at hopened
    cases added? with
    | none => exact absurd hopened nofun
    | some added =>
      obtain ⟨s', hs', rfl⟩ := exists_of_connect? hadded?
      obtain ⟨rfl, rfl⟩ := Prod.mk.inj (Except.ok.inj hopened)
      have hopen : (m.network.add s').2.sockets.get? ⟨m.network.next⟩ = some s' :=
        Table.get?_insert_self _ _ _
      refine ⟨⟨rfl, rfl, rfl⟩, remote, hremote, ?_⟩
      exact (congrArg (Option.bind · Socket.remote) hopen).trans hs'

/-! ### Requests that send nothing -/

namespace Site

variable (site : Site) (h : PeerHandle)

theorem quiet_openPeer (c : ContextHandle) (config : PeerConfig) :
    Quiet site.machine (site.openPeer c config).2.machine := by
  unfold openPeer
  split
  · exact .refl _
  · split
    · exact .refl _
    · dsimp only
      split
      · exact .refl _
      · exact .of_network_eq rfl

/-- With a peer its sockets are closed, and what waits for them is given up. -/
theorem quiet_closePeer : Quiet site.machine (site.closePeer h).2.machine := by
  unfold closePeer
  split
  · exact .refl _
  · exact .closeAll _ _

theorem quiet_configure (slot : Slot) (i : Interface) (config : InterfaceConfig) :
    Quiet site.machine (site.configure h slot i config).2.machine := by
  unfold configure
  split
  · exact .refl _
  · dsimp only
    split
    · exact .refl _
    · split
      · exact .refl _
      · exact .refl _

/-- At most a socket is opened. -/
theorem quiet_bind (slot : Slot) (i : Interface) (endpoint : Endpoint) :
    Quiet site.machine (site.bind h slot i endpoint).2.machine := by
  unfold Site.bind
  split
  · exact .refl _
  · split
    · exact .refl _
    · dsimp only
      split
      · exact .refl _
      · split
        · exact .refl _
        · next hlink => exact (opens_of_bindLink hlink).quiet

/-- Connecting says nothing to the other end: at most a socket is opened. -/
theorem quiet_connect (slot : Slot) (i : Interface) (endpoint : Endpoint) :
    Quiet site.machine (site.connect h slot i endpoint).2.machine := by
  unfold connect
  split
  · exact .refl _
  · split
    · exact .refl _
    · dsimp only
      split
      · exact .refl _
      · split
        · exact .refl _
        · next hlink => exact (opens_of_connectLink hlink).1.quiet

/-- What waits for the sockets of a slot is taken first, and the sockets are closed then. -/
theorem quiet_unlink (slot : Slot) : Quiet site.machine (site.unlink h slot).2.machine := by
  unfold unlink
  split
  · exact .refl _
  · split
    · exact .refl _
    · exact (quiet_collectFlow _ _).trans (.closeAll _ _)

/-- A read takes what waits for the peer. -/
theorem quiet_read (n : Nat) : Quiet site.machine (site.read h n).2.machine := by
  unfold read
  split
  · exact .refl _
  · split
    · exact .refl _
    · split
      · exact .refl _
      · next playout _ => exact (quiet_pace _ _ _).trans (quiet_collect _ _ playout)

/-- To settle is to take what waits for the peer. -/
theorem quiet_settle : Quiet site.machine (site.settle h).machine := by
  unfold settle
  split
  · exact .refl _
  · exact quiet_collectFlow _ _

end Site

/-- Nothing but a write sends anything. -/
theorem quiet_engine {r : Request} (hr : ∀ h frame, r ≠ .write h frame) (site : Site) :
    Quiet site.machine (engine r site).2.machine := by
  cases r with
  | contextOpen config =>
    rcases site.openContext_cases config with ⟨code, hopen⟩ | hopen
    · exact .of_network_eq (by rw [engine, hopen])
    · exact .of_network_eq (by rw [engine, hopen])
  | registerEncoding c id encoding =>
    rcases site.registerEncoding_cases c id encoding with ⟨code, hregister⟩ | ⟨k, -, hregister⟩
    · exact .of_network_eq (by rw [engine, hregister])
    · exact .of_network_eq (by rw [engine, hregister])
  | contextClose c =>
    rcases site.closeContext_cases c with ⟨⟨code, hclose⟩, -⟩ | ⟨k, -, -, hclose⟩
    · exact .of_network_eq (by rw [engine, hclose])
    · exact .of_network_eq (by rw [engine, hclose])
  | peerOpen c config => exact site.quiet_openPeer c config
  | configure h slot i config => exact site.quiet_configure h slot i config
  | bind h slot i endpoint => exact site.quiet_bind h slot i endpoint
  | connect h slot i endpoint => exact site.quiet_connect h slot i endpoint
  | unlink h slot => exact site.quiet_unlink h slot
  | peerClose h => exact site.quiet_closePeer h
  | read h n => exact site.quiet_read h n
  | write h frame => exact absurd rfl (hr h frame)

/-! ## What a write hands to sockets -/

/-- Datagrams that are sent come to wait where they arrive, in their order. Nothing else of the network
changes. -/
theorem network_transmit (m : Machine) (datagrams : List (SocketId × Bytes)) :
    (transmit m datagrams).network = { m.network with
      waiting := m.network.waiting ++ datagrams.filterMap (m.network.arrival? m.host) } := by
  rw [← Network.foldl_post]
  unfold transmit
  induction datagrams generalizing m with
  | nil => rfl
  | cons d datagrams ih => exact ih (m.post d.1 d.2)

namespace Site

/-- The datagrams that are handed to sockets, if this happens, in their order. -/
def handedBy (site : Site) : Happening → List (SocketId × Bytes)
  | .request (.write h frame) =>
    match site.state.peers.get? h with
    | some q =>
      match q.flow with
      | .sending fec stream _ =>
        (site.cutBy h (.request (.write h frame))).flatMap (datagramsOf q.slots fec stream)
      | .receiving _ => []
    | none => []
  | _ => []

variable {site : Site} {h : PeerHandle}

/-- What a sender cuts, if something happens, is cut from what is written to it. -/
theorem cutBy_eq {q : PeerState} {fec : FecEncoding} {stream : UInt32} {p : Packetizer}
    (hq : site.state.peers.get? h = some q) (hflow : q.flow = .sending fec stream p)
    (e : Happening) : site.cutBy h e = (p.pushAll (site.writtenBy h e)).1 := by
  rw [cutBy, hq, Option.map_some, hflow]

/-- Nothing is cut unless a frame is written. -/
theorem cutBy_eq_nil {e : Happening} (hwritten : site.writtenBy h e = []) : site.cutBy h e = [] := by
  rw [cutBy, hwritten]
  split
  · rfl
  · rfl

/-- A frame that is refused is not written. -/
theorem writtenBy_of_refused {frame : Frame} {code : EngineCode}
    (hwrite : (site.write h frame).1 = .error code) (other : PeerHandle) :
    site.writtenBy other (.request (.write h frame)) = [] := by
  refine if_neg fun hself => ?_
  rw [hwrite] at hself
  exact absurd hself.2 nofun

/-- Nothing is handed to sockets of a frame that is refused. -/
theorem handedBy_of_refused {frame : Frame} {code : EngineCode}
    (hwrite : (site.write h frame).1 = .error code) :
    site.handedBy (.request (.write h frame)) = [] := by
  rw [handedBy, cutBy_eq_nil (writtenBy_of_refused hwrite h)]
  split
  · split
    · rfl
    · rfl
  · rfl

/-- Of a frame that is written to a sender, each packet is handed to all sockets for its kind. -/
theorem handedBy_write {q : PeerState} {fec : FecEncoding} {stream : UInt32} {p : Packetizer}
    (hq : site.state.peers.get? h = some q) (hflow : q.flow = .sending fec stream p)
    (frame : Frame) : site.handedBy (.request (.write h frame)) =
      (site.cutBy h (.request (.write h frame))).flatMap (datagramsOf q.slots fec stream) := by
  rw [handedBy, hq]
  dsimp only
  rw [hflow]

/-- If a frame is written, what is handed to sockets comes to wait behind what waited already, as far
as it arrives; and that is all that happens to the network. -/
theorem network_write (site : Site) (h : PeerHandle) (frame : Frame) :
    (site.write h frame).2.machine.network = { site.machine.network with
      waiting := site.machine.network.waiting ++
        (site.handedBy (.request (.write h frame))).filterMap
          (site.machine.network.arrival? site.machine.host) } := by
  rcases site.write_cases h frame with
    ⟨code, hwrite⟩ | ⟨q, fec, stream, p, machine, pacer, hq, hflow, hframe, hwrite⟩
  · rw [handedBy_of_refused (congrArg Prod.fst hwrite), hwrite, List.filterMap_nil, List.append_nil]
  · have hwritten : site.writtenBy h (.request (.write h frame)) = [frame] :=
      if_pos ⟨rfl, congrArg Prod.fst hwrite⟩
    have hhanded : site.handedBy (.request (.write h frame)) =
        (p.push frame).1.flatMap (datagramsOf q.slots fec stream) := by
      rw [handedBy_write hq hflow, cutBy_eq hq hflow, hwritten, Packetizer.pushAll_singleton]
    have hmachine : (site.write h frame).2.machine =
        transmit (pace site.machine q.pacer frame.length).2
          (site.handedBy (.request (.write h frame))) := by
      rw [hhanded]
      unfold write
      simp only [hq, hflow, hframe, ne_eq, not_true_eq_false, if_false]
      rfl
    rw [hmachine, network_transmit, network_pace, host_pace]

end Site

/-! ## Numbers of sockets -/

/-- The machine takes no number of a socket back. -/
def Happening.KeepsNumbers : Happening → Prop
  | .machine change => ∀ m : Machine, m.network.next ≤ (change m).network.next
  | .request _ | .settle _ => True

/-- One event takes no number of a socket back. -/
theorem Site.next_le_after (site : Site) {e : Happening} (he : e.KeepsNumbers) :
    site.machine.network.next ≤ (site.after e).machine.network.next := by
  cases e with
  | machine change => exact he site.machine
  | settle h => exact (site.quiet_settle h).next
  | request r =>
    by_cases hr : ∃ h frame, r = .write h frame
    · obtain ⟨h, frame, rfl⟩ := hr
      -- Sending leaves the sockets and their numbers alone.
      exact Nat.le_of_eq (congrArg Network.next (site.network_write h frame)).symm
    · exact (quiet_engine (fun h frame hwrite => hr ⟨h, frame, hwrite⟩) site).next

/-- Nor does a run. -/
theorem Site.next_le_afterAll (site : Site) {events : List Happening}
    (hevents : ∀ e ∈ events, e.KeepsNumbers) :
    site.machine.network.next ≤ (site.afterAll events).machine.network.next := by
  induction events generalizing site with
  | nil => exact Nat.le_refl _
  | cons e events ih =>
    obtain ⟨he, hrest⟩ := List.forall_mem_cons.mp hevents
    exact Nat.le_trans (site.next_le_after he) (ih (site.after e) hrest)

end Loopback
end AudioLink
