import AudioLink.Proofs.Loopback.Fidelity
import AudioLink.Proofs.Loopback.Senders

/-
What every socket of a sender gets.

A frame that is written is cut into packets once, and each packet goes to all interfaces that send
packets of its kind at that moment. Seen from one socket this is simple: from the moment on at which
its interface is connected, and until the interface stops sending by it, it gets all packets that are
cut, in the order in which they are cut, and before and after that it gets nothing. The packets are
numbered in a row because the sender stays the same for as long as it has the interface.

The induction is on the rest of a run. What is carried along is that nothing else sends by the socket,
and what the stream of its sender is for as long as the interface sends by it.

To be handed to a socket is not yet to arrive. So it is also said of each write what it does to the
network: all that is handed to sockets is sent, and it comes to wait where `Network.arrival?` says.
-/
set_option autoImplicit false

namespace AudioLink

/-! ## Pieces as packets -/

/-- A piece as a packet of a stream. -/
def Piece.packet (piece : Piece) (kind : PacketKind) (stream : UInt32) : Packet :=
  ⟨kind, stream, piece.seq, piece.samples⟩

/-- Of two copies of a packet only the byte of the kind is different. -/
theorem Packet.encode_packet_repair (piece : Piece) (stream : UInt32) :
    (piece.packet .repair stream).encode =
      (piece.packet .source stream).encode.set 3 (kindByte .repair) := rfl

namespace Loopback

/-! ## Numbers in a row -/

theorem numbered_nil (base : UInt32) : Numbered base [] := nofun

/-- Pieces that go on with the numbers are numbered with those before them. -/
theorem Numbered.append {base : UInt32} {pieces more : List Piece} (h : Numbered base pieces)
    (hmore : Numbered (base + UInt32.ofNat pieces.length) more) : Numbered base (pieces ++ more) := by
  intro i piece hpiece
  by_cases hi : i < pieces.length
  · rw [List.getElem?_append_left hi] at hpiece
    exact h i piece hpiece
  · have hle : pieces.length ≤ i := Nat.le_of_not_lt hi
    rw [List.getElem?_append_right hle] at hpiece
    rw [hmore _ piece hpiece, UInt32.add_assoc, ← UInt32.ofNat_add, Nat.add_sub_cancel' hle]

/-- A frame uses up as many numbers as it is cut into pieces. -/
theorem seq_push (p : Packetizer) (frame : Frame) :
    (p.push frame).2.seq = p.seq + UInt32.ofNat (p.push frame).1.length := by
  rw [Packetizer.push_eq, Packetizer.length_number]

/-- Frames that are pushed one after the other are cut into packets with numbers in a row, and the
stream goes on with the next number. -/
theorem numbered_pushAll (p : Packetizer) (frames : List Frame) :
    Numbered p.seq (p.pushAll frames).1 ∧
      (p.pushAll frames).2.seq = p.seq + UInt32.ofNat (p.pushAll frames).1.length := by
  induction frames generalizing p with
  | nil => exact ⟨numbered_nil _, (UInt32.add_zero _).symm⟩
  | cons frame frames ih =>
    obtain ⟨hnumbered, hseq⟩ := ih (p.push frame).2
    rw [seq_push] at hnumbered hseq
    rw [Packetizer.pushAll_cons]
    refine ⟨(numbered_push p frame).append hnumbered, hseq.trans ?_⟩
    rw [List.length_append, UInt32.ofNat_add, UInt32.add_assoc]

/-! ## What a socket gets of one packet -/

/-- What is handed to one socket of a list of datagrams. -/
def sentTo (socket : SocketId) (datagrams : List (SocketId × Bytes)) : List Bytes :=
  datagrams.filterMap fun d => if d.1 = socket then some d.2 else none

/-- The datagrams of a piece for a socket by which such an interface sends. -/
def copies (fec : FecEncoding) (stream : UInt32) (i : Interface) (piece : Piece) : List Bytes :=
  (kinds fec).flatMap fun kind =>
    if interfaceOf kind = i then [(piece.packet kind stream).encode] else []

section Copies

variable {fec : FecEncoding} {stream : UInt32} {i : Interface}

/-- A source interface is given each piece once. -/
theorem copies_audioSource (piece : Piece) :
    copies fec stream .audioSource piece = [(piece.packet .source stream).encode] := by
  unfold copies kinds
  split
  · rfl
  · rfl

/-- A repair interface is given each piece once, if there is error correction. -/
theorem copies_audioRepair (piece : Piece) : copies fec stream .audioRepair piece =
    if fec.isEnabled then [(piece.packet .repair stream).encode] else [] := by
  unfold copies kinds
  split
  · rfl
  · rfl

/-- No packet is sent on any other interface. -/
theorem copies_of_ne (hsource : i ≠ .audioSource) (hrepair : i ≠ .audioRepair) (piece : Piece) :
    copies fec stream i piece = [] := by
  refine List.flatMap_eq_nil_iff.mpr fun kind _ => if_neg ?_
  cases kind with
  | source => exact Ne.symm hsource
  | repair => exact Ne.symm hrepair

end Copies

/-- What goes to one socket is picked out batch by batch. -/
theorem sentTo_flatMap {α : Type} (socket : SocketId) (f : α → List (SocketId × Bytes))
    (l : List α) : sentTo socket (l.flatMap f) = l.flatMap fun a => sentTo socket (f a) :=
  List.filterMap_flatMap

/-- What is looked up of the datagrams for one socket is what is looked up of some of all. -/
theorem filterMap_sentTo {α : Type} (socket : SocketId) (f : SocketId × Bytes → Option α)
    (datagrams : List (SocketId × Bytes)) :
    (sentTo socket datagrams).filterMap (fun bytes => f (socket, bytes)) =
      (datagrams.filter fun d => d.1 = socket).filterMap f := by
  rw [sentTo, List.filterMap_filterMap, List.filterMap_filter]
  refine congrArg (List.filterMap · datagrams) (funext fun d => ?_)
  by_cases hd : d.1 = socket
  · simp [← hd]
  · simp [hd]

/-- A datagram for several sockets goes to one as often as this one is among them. -/
theorem sentTo_map (socket : SocketId) (bytes : Bytes) (ids : List SocketId) :
    sentTo socket (ids.map (·, bytes)) = List.replicate (ids.count socket) bytes := by
  induction ids with
  | nil => rfl
  | cons id ids ih =>
    rw [sentTo] at ih
    rw [List.map_cons, sentTo, List.filterMap_cons, List.count_cons, ih]
    by_cases hid : id = socket
    · rw [if_pos hid, if_pos (beq_iff_eq.mpr hid)]
      rfl
    · rw [if_neg hid, if_neg fun h => hid (beq_iff_eq.mp h)]
      rfl

/-- A socket is a target as often as slots send on it. -/
theorem count_targets (slots : Table Slot SlotState) (kind : PacketKind) (socket : SocketId) :
    (targets slots kind).count socket =
      slots.count fun s => s.sender? (interfaceOf kind) == some socket := by
  rw [targets, List.count, List.countP_filterMap, Table.values, List.countP_map, Table.count]
  refine congrArg (List.countP · slots.entries) (funext fun x => ?_)
  rw [Function.comp_apply]
  cases x.2.sender? (interfaceOf kind) with
  | none => rfl
  | some id => rfl

section Sent

variable {q : PeerState} {slot : Slot} {i : Interface} {socket : SocketId}

/-- A socket by which at most one interface of a peer sends is at most once among those that get a
packet. -/
theorem count_targets_of_only
    (honly : ∀ slot' i', q.sender? slot' i' = some socket → slot' = slot ∧ i' = i)
    (kind : PacketKind) : (targets q.slots kind).count socket =
      (decide (interfaceOf kind = i ∧ q.sender? slot i = some socket)).toNat := by
  have hunique (slot' : Slot) (s : SlotState) (hs : q.slots.get? slot' = some s)
      (hsends : (s.sender? (interfaceOf kind) == some socket) = true) : slot' = slot :=
    (honly slot' (interfaceOf kind)
      (PeerState.sender?_eq_some_iff.mpr ⟨s, hs, eq_of_beq hsends⟩)).1
  have hsends : (q.slots.get? slot).any (fun s => s.sender? (interfaceOf kind) == some socket) =
      decide (interfaceOf kind = i ∧ q.sender? slot i = some socket) := by
    rw [Bool.eq_iff_iff, decide_eq_true_iff, Option.any_eq_true]
    constructor
    · rintro ⟨s, hs, hsends⟩
      have hsender : q.sender? slot (interfaceOf kind) = some socket :=
        PeerState.sender?_eq_some_iff.mpr ⟨s, hs, eq_of_beq hsends⟩
      obtain ⟨-, rfl⟩ := honly slot (interfaceOf kind) hsender
      exact ⟨rfl, hsender⟩
    · rintro ⟨rfl, hsender⟩
      obtain ⟨s, hs, hsends⟩ := PeerState.sender?_eq_some_iff.mp hsender
      exact ⟨s, hs, beq_iff_eq.mpr hsends⟩
  rw [count_targets, Table.count_eq_of_unique hunique, hsends]

/-- If only one interface of a peer can send by a socket, this socket gets one copy of each packet of
the right kind as long as the interface sends by it. -/
theorem sentTo_datagramsOf (fec : FecEncoding) (stream : UInt32) (piece : Piece)
    (honly : ∀ slot' i', q.sender? slot' i' = some socket → slot' = slot ∧ i' = i) :
    sentTo socket (datagramsOf q.slots fec stream piece) =
      if q.sender? slot i = some socket then copies fec stream i piece else [] := by
  have hkind (kind : PacketKind) : sentTo socket ((targets q.slots kind).map
      (·, (piece.packet kind stream).encode)) =
        if q.sender? slot i = some socket then
          if interfaceOf kind = i then [(piece.packet kind stream).encode] else []
        else [] := by
    rw [sentTo_map, count_targets_of_only honly]
    by_cases hsends : q.sender? slot i = some socket
    · by_cases hi : interfaceOf kind = i
      · rw [decide_eq_true ⟨hi, hsends⟩, if_pos hsends, if_pos hi]
        rfl
      · rw [decide_eq_false fun h => hi h.1, if_pos hsends, if_neg hi]
        rfl
    · rw [decide_eq_false fun h => hsends h.2, if_neg hsends]
      rfl
  rw [datagramsOf, sentTo_flatMap]
  refine (congrArg (fun f => (kinds fec).flatMap f) (funext hkind)).trans ?_
  split
  · rfl
  · exact List.flatMap_eq_nil_iff.mpr fun _ _ => rfl

end Sent

/-! ## Streams that go on -/

section Streams

variable {site : Site} {h : PeerHandle} {slot : Slot} {i : Interface} {socket : SocketId}
  {fec : FecEncoding} {stream : UInt32} {p : Packetizer}

/-- A peer sends in one way. -/
theorem IsSending.unique {peers : Table PeerHandle PeerState} {fec' : FecEncoding}
    {stream' : UInt32} {p' : Packetizer} (hsending : IsSending peers h fec stream p)
    (hsending' : IsSending peers h fec' stream' p') : fec' = fec ∧ stream' = stream ∧ p' = p := by
  obtain ⟨q, hq, hflow⟩ := hsending
  obtain ⟨q', hq', hflow'⟩ := hsending'
  obtain rfl := Option.some.inj (hq.symm.trans hq')
  obtain ⟨rfl, rfl, rfl⟩ := Flow.sending.inj (hflow.symm.trans hflow')
  exact ⟨rfl, rfl, rfl⟩

/-- Only a sender has error correction. -/
theorem exists_of_fec? {flow : Flow} (hfec : flow.fec? = some fec) :
    ∃ stream p, flow = .sending fec stream p := by
  cases flow with
  | receiving p => exact absurd hfec nofun
  | sending fec' stream p => exact ⟨stream, p, by rw [Option.some.inj hfec]⟩

/-- As long as a sender sends by anything, its stream goes on with what is written to it. -/
theorem sending_after {e : Happening} (hsending : IsSending site.state.peers h fec stream p)
    (hsender : (site.after e).sender? h slot i = some socket) :
    IsSending (site.after e).state.peers h fec stream (p.pushAll (site.writtenBy h e)).2 := by
  have hopens := opens_eq_false hsender
  obtain ⟨q', hq', -⟩ := Site.sender?_eq_some_iff.mp hsender
  obtain ⟨q, hq, hflow⟩ := hsending
  have hfec : q'.flow.fec? = some fec := by
    cases site.peerStep_after e hq' with
    | opened hopened => exact absurd (hopens.symm.trans hopened) Bool.false_ne_true
    | stepped q₁ hq₁ hfec =>
      rw [hfec, ← Option.some.inj (hq.symm.trans hq₁), hflow]
      rfl
  obtain ⟨stream', p', hflow'⟩ := exists_of_fec? hfec
  cases site.streams_after e ⟨q', hq', hflow'⟩ with
  | opened hopened => exact absurd (hopens.symm.trans hopened) Bool.false_ne_true
  | went p₁ hstill hbefore hp' =>
    obtain ⟨-, rfl, rfl⟩ := IsSending.unique ⟨q, hq, hflow⟩ hbefore
    exact ⟨q', hq', hp' ▸ hflow'⟩

end Streams

/-! ## What a socket gets in a run -/

/-- The datagrams that are handed to a socket in a run, in their order. -/
def handedTo (socket : SocketId) : List Happening → Site → List Bytes
  | [], _ => []
  | e :: events, site => sentTo socket (site.handedBy e) ++ handedTo socket events (site.after e)

/-- The pieces that a peer cuts in a run, as long as an interface of one of its slots sends by this
socket. -/
def cutWhile (h : PeerHandle) (slot : Slot) (i : Interface) (socket : SocketId) :
    List Happening → Site → List Piece
  | [], _ => []
  | e :: events, site =>
    (if site.sender? h slot i = some socket then site.cutBy h e else []) ++
      cutWhile h slot i socket events (site.after e)

/-- What is handed in a longer run is handed in its two parts. -/
theorem handedTo_append (socket : SocketId) (events more : List Happening) (site : Site) :
    handedTo socket (events ++ more) site =
      handedTo socket events site ++ handedTo socket more (site.afterAll events) := by
  induction events generalizing site with
  | nil => rfl
  | cons e events ih =>
    rw [List.cons_append, handedTo, ih, handedTo, List.append_assoc]
    rfl

section Handed

variable {site : Site} {h : PeerHandle} {slot : Slot} {i : Interface} {socket : SocketId}
  {fec : FecEncoding} {stream : UInt32} {p : Packetizer}

/-- Nothing is handed to sockets but by a write that is not refused. -/
theorem handedBy_cases (site : Site) (e : Happening) :
    (site.handedBy e = [] ∧ ∀ h, site.cutBy h e = []) ∨
      ∃ h frame q fec stream p, e = .request (.write h frame) ∧
        site.state.peers.get? h = some q ∧ q.flow = .sending fec stream p ∧
        site.handedBy e = (site.cutBy h e).flatMap (datagramsOf q.slots fec stream) ∧
        ∀ other, other ≠ h → site.cutBy other e = [] := by
  cases e with
  | machine change => exact .inl ⟨rfl, fun h => Site.cutBy_eq_nil rfl⟩
  | settle h₁ => exact .inl ⟨rfl, fun h => Site.cutBy_eq_nil rfl⟩
  | request r =>
    cases r with
    | write h frame =>
      rcases site.write_cases h frame with
        ⟨code, hwrite⟩ | ⟨q, fec, stream, p, machine, pacer, hq, hflow, -, -⟩
      · have hrefused := congrArg Prod.fst hwrite
        exact .inl ⟨Site.handedBy_of_refused hrefused,
          fun other => Site.cutBy_eq_nil (Site.writtenBy_of_refused hrefused other)⟩
      · refine .inr ⟨h, frame, q, fec, stream, p, rfl, hq, hflow,
          Site.handedBy_write hq hflow frame, fun other hother => ?_⟩
        exact Site.cutBy_eq_nil (if_neg fun hself => hother hself.1.symm)
    | _ => exact .inl ⟨rfl, fun h => Site.cutBy_eq_nil rfl⟩

/-- One event hands the packets that it makes the sender cut to a socket, if the interface sends by it.
-/
theorem sentTo_handedBy (hreserves : site.Reserves socket h slot i)
    (hsending : site.sender? h slot i = some socket → IsSending site.state.peers h fec stream p)
    (e : Happening) : sentTo socket (site.handedBy e) =
      if site.sender? h slot i = some socket then (site.cutBy h e).flatMap (copies fec stream i)
      else [] := by
  rcases handedBy_cases site e with
    ⟨hhanded, hcut⟩ | ⟨h', frame, q, fec', stream', p', rfl, hq, hflow, hhanded, hothers⟩
  · rw [hhanded, hcut h]
    split
    · rfl
    · rfl
  · have hsends (slot' : Slot) (i' : Interface) (hsender : q.sender? slot' i' = some socket) :
        h' = h ∧ slot' = slot ∧ i' = i :=
      hreserves.only h' slot' i' (Site.sender?_eq_some_iff.mpr ⟨q, hq, hsender⟩)
    rw [hhanded, sentTo_flatMap]
    have hsent (piece : Piece) := sentTo_datagramsOf fec' stream' piece
      fun slot' i' hsender => (hsends slot' i' hsender).2
    -- Whether the writer is the peer that the socket belongs to.
    by_cases hsender : q.sender? slot i = some socket
    · obtain ⟨rfl, -, -⟩ := hsends slot i hsender
      have hlive : site.sender? h' slot i = some socket :=
        Site.sender?_eq_some_iff.mpr ⟨q, hq, hsender⟩
      obtain ⟨rfl, rfl, -⟩ := (hsending hlive).unique ⟨q, hq, hflow⟩
      simp only [hsent, if_pos hsender, if_pos hlive]
    · have hnone : site.sender? h slot i = some socket →
          site.cutBy h (.request (.write h' frame)) = [] := by
        intro hlive
        refine hothers h ?_
        rintro rfl
        obtain ⟨q₁, hq₁, hsender₁⟩ := Site.sender?_eq_some_iff.mp hlive
        obtain rfl := Option.some.inj (hq.symm.trans hq₁)
        exact hsender hsender₁
      simp only [hsent, if_neg hsender, List.flatMap_eq_nil_iff.mpr fun _ _ => rfl]
      split
      · next hlive =>
        rw [hnone hlive]
        rfl
      · rfl

/-- From a moment on at which a socket is for one interface only, it gets the packets that are cut as
long as the interface sends by it, and these are numbered in a row. -/
theorem handedTo_eq (hreserves : site.Reserves socket h slot i)
    (hsending : site.sender? h slot i = some socket → IsSending site.state.peers h fec stream p)
    {events : List Happening} (hevents : ∀ e ∈ events, e.KeepsNumbers) :
    handedTo socket events site =
        (cutWhile h slot i socket events site).flatMap (copies fec stream i) ∧
      Numbered p.seq (cutWhile h slot i socket events site) := by
  induction events generalizing site p with
  | nil => exact ⟨rfl, numbered_nil _⟩
  | cons e events ih =>
    obtain ⟨he, hrest⟩ := List.forall_mem_cons.mp hevents
    have hafter := hreserves.after he
    rw [handedTo, cutWhile, sentTo_handedBy hreserves hsending, List.flatMap_append]
    by_cases hlive : site.sender? h slot i = some socket
    · obtain ⟨q, hq, hflow⟩ := hsending hlive
      obtain ⟨hhanded, hnumbered⟩ :=
        ih hafter (p := (p.pushAll (site.writtenBy h e)).2) (sending_after ⟨q, hq, hflow⟩) hrest
      obtain ⟨hcut, hseq⟩ := numbered_pushAll p (site.writtenBy h e)
      rw [if_pos hlive, if_pos hlive, hhanded]
      rw [← Site.cutBy_eq hq hflow] at hcut hseq
      rw [hseq] at hnumbered
      exact ⟨rfl, hcut.append hnumbered⟩
    · -- What does not send any more never sends again.
      obtain ⟨hhanded, hnumbered⟩ :=
        ih hafter (p := p) (fun hsender => absurd (hreserves.still hsender) hlive) hrest
      rw [if_neg hlive, if_neg hlive, hhanded]
      exact ⟨rfl, hnumbered⟩

/-- As long as the interface sends by the socket, the stream of its sender is the same. -/
theorem exists_sending_afterAll (hreserves : site.Reserves socket h slot i)
    (hsending : site.sender? h slot i = some socket → IsSending site.state.peers h fec stream p)
    {events : List Happening} (hevents : ∀ e ∈ events, e.KeepsNumbers)
    (hsender : (site.afterAll events).sender? h slot i = some socket) :
    ∃ p', IsSending (site.afterAll events).state.peers h fec stream p' := by
  induction events generalizing site p with
  | nil => exact ⟨p, hsending hsender⟩
  | cons e events ih =>
    obtain ⟨he, hrest⟩ := List.forall_mem_cons.mp hevents
    refine ih (p := (p.pushAll (site.writtenBy h e)).2) (hreserves.after he) ?_ hrest hsender
    exact fun hafter => sending_after (hsending (hreserves.still hafter)) hafter

/-- A datagram is of a packet that has just been cut, and is handed to a connected interface of a slot
that is not broken. -/
theorem exists_of_mem_handedBy {e : Happening} {bytes : Bytes}
    (hmem : (socket, bytes) ∈ site.handedBy e) :
    ∃ h q slot s kind fec stream p piece, site.state.peers.get? h = some q ∧
      q.flow = .sending fec stream p ∧ kind ∈ kinds fec ∧ piece ∈ site.cutBy h e ∧
      bytes = (piece.packet kind stream).encode ∧ q.slots.get? slot = some s ∧ s.broken = false ∧
      s.links.get? (interfaceOf kind) = some (.connected socket) := by
  rcases handedBy_cases site e with
    ⟨hhanded, -⟩ | ⟨h, frame, q, fec, stream, p, -, hq, hflow, hhanded, -⟩
  · rw [hhanded] at hmem
    exact absurd hmem List.not_mem_nil
  · rw [hhanded] at hmem
    obtain ⟨piece, hpiece, hmem⟩ := List.mem_flatMap.mp hmem
    obtain ⟨kind, hkind, hmem⟩ := List.mem_flatMap.mp hmem
    obtain ⟨id, hid, hmem⟩ := List.mem_map.mp hmem
    obtain ⟨rfl, rfl⟩ := Prod.mk.inj hmem
    obtain ⟨s, hs, hsender⟩ := List.mem_filterMap.mp hid
    obtain ⟨⟨slot, s⟩, hslot, rfl⟩ := List.mem_map.mp hs
    obtain ⟨hwhole, hlink⟩ := SlotState.sender?_eq_some_iff.mp hsender
    exact ⟨h, q, slot, s, kind, fec, stream, p, piece, hq, hflow, hkind, hpiece, rfl,
      Table.mem_entries.mp hslot, hwhole, hlink⟩

/-- A socket that has not been opened yet gets nothing. -/
theorem handedTo_eq_nil (hsite : site.OpensBeforeSending) {events : List Happening}
    (hevents : ∀ e ∈ events, e.KeepsNumbers)
    (hsocket : (site.afterAll events).machine.network.next ≤ socket.index) :
    handedTo socket events site = [] := by
  induction events generalizing site with
  | nil => rfl
  | cons e events ih =>
    obtain ⟨he, hrest⟩ := List.forall_mem_cons.mp hevents
    have hnow : sentTo socket (site.handedBy e) = [] := by
      refine List.filterMap_eq_nil_iff.mpr fun d hd => if_neg ?_
      rintro rfl
      obtain ⟨h, q, slot, s, kind, -, -, -, -, hq, -, -, -, -, hslot, hwhole, hlink⟩ :=
        exists_of_mem_handedBy hd
      have hsender : site.sender? h slot (interfaceOf kind) = some d.1 :=
        Site.sender?_eq_some_iff.mpr ⟨q, hq, PeerState.sender?_eq_some_iff.mpr
          ⟨s, hslot, SlotState.sender?_eq_some_iff.mpr ⟨hwhole, hlink⟩⟩⟩
      have hopened := hsite h slot (interfaceOf kind) d.1 hsender
      have hlater := site.next_le_afterAll hevents
      omega
    rw [handedTo, hnow, ih (hsite.after he) hrest hsocket]
    rfl

end Handed

/-! ## The rules of sending -/

/-- What is sent on a site, and what is not. -/
structure Site.SendsOnly (site : Site) : Prop where
  /-- What a write does to the network is to send what is handed to sockets: as far as it arrives, it
  waits in this order behind what waited already. -/
  written : ∀ h frame, (engine (.write h frame) site).2.machine.network =
    { site.machine.network with
      waiting := site.machine.network.waiting ++
        (site.handedBy (.request (.write h frame))).filterMap
          (site.machine.network.arrival? site.machine.host) }
  /-- That is packets which have just been cut, and it goes to interfaces for their kind that are
  connected, of slots that are there and not broken. -/
  handed : ∀ e socket bytes, (socket, bytes) ∈ site.handedBy e →
    ∃ h q slot s kind fec stream p piece, site.state.peers.get? h = some q ∧
      q.flow = .sending fec stream p ∧ kind ∈ kinds fec ∧ piece ∈ site.cutBy h e ∧
      bytes = (piece.packet kind stream).encode ∧ q.slots.get? slot = some s ∧ s.broken = false ∧
      s.links.get? (interfaceOf kind) = some (.connected socket)
  /-- A frame that has not the same number of samples for each channel is refused, and everything
  stays as it is. -/
  uneven : ∀ h q frame, site.state.peers.get? h = some q → frame.length % q.channels ≠ 0 →
    engine (.write h frame) site = (.error .invalidArgument, site) ∧
      site.handedBy (.request (.write h frame)) = []
  /-- Nothing else that is asked of the engine sends anything. -/
  quiet : ∀ r : Request, (∀ h frame, r ≠ .write h frame) →
    (engine r site).2.machine.network.waiting.Sublist site.machine.network.waiting
  settled : ∀ h, (site.settle h).machine.network.waiting.Sublist site.machine.network.waiting

/-- A frame that is not whole is refused and changes nothing. -/
theorem Site.write_of_uneven {site : Site} {h : PeerHandle} {q : PeerState} {frame : Frame}
    (hq : site.state.peers.get? h = some q) (huneven : frame.length % q.channels ≠ 0) :
    site.write h frame = (.error .invalidArgument, site) := by
  unfold write
  simp only [hq, if_pos huneven]
  rfl

theorem Site.sendsOnly (site : Site) : site.SendsOnly where
  written := site.network_write
  handed _ _ _ := exists_of_mem_handedBy
  uneven h q frame hq huneven := by
    have hwrite := write_of_uneven hq huneven
    exact ⟨hwrite, handedBy_of_refused (congrArg Prod.fst hwrite)⟩
  quiet r hr := (quiet_engine hr site).waiting
  settled h := (site.quiet_settle h).waiting

/-- If this happens, these datagrams are sent by a socket: in their order they come to wait behind what
waited already, as far as they arrive. -/
def Site.Posts (site : Site) (e : Happening) (socket : SocketId) (sent : List Bytes) : Prop :=
  ∃ arrived, (site.after e).machine.network.waiting = site.machine.network.waiting ++ arrived ∧
    (sent.filterMap fun bytes =>
      site.machine.network.arrival? site.machine.host (socket, bytes)).Sublist arrived

/-- What is handed to a socket by a write is sent by it. -/
theorem Site.posts_sentTo (site : Site) (h : PeerHandle) (frame : Frame) (socket : SocketId) :
    site.Posts (.request (.write h frame)) socket
      (sentTo socket (site.handedBy (.request (.write h frame)))) := by
  refine ⟨_, congrArg Network.waiting (site.network_write h frame), ?_⟩
  rw [filterMap_sentTo]
  exact List.filter_sublist.filterMap _

/-- What has been handed to a socket by which such an interface sends, if these pieces were cut while
it did. -/
structure FansOut (fec : FecEncoding) (stream seq : UInt32) (i : Interface) (pieces : List Piece)
    (handed : List Bytes) : Prop where
  source : i = .audioSource →
    handed = pieces.map fun piece => (piece.packet .source stream).encode
  repair : i = .audioRepair →
    handed = if fec.isEnabled then pieces.map fun piece => (piece.packet .repair stream).encode else []
  /-- The two copies of a packet differ in one byte. -/
  kind : ∀ piece ∈ pieces, (piece.packet .repair stream).encode =
    (piece.packet .source stream).encode.set 3 (Packet.kindByte .repair)
  other : i ≠ .audioSource → i ≠ .audioRepair → handed = []
  numbered : Numbered seq pieces

/-- Copies of numbered pieces are a fan-out. -/
theorem fansOut_of_copies {fec : FecEncoding} {stream seq : UInt32} {i : Interface}
    {pieces : List Piece} (hnumbered : Numbered seq pieces) :
    FansOut fec stream seq i pieces (pieces.flatMap (copies fec stream i)) where
  source hi := by
    rw [hi, List.map_eq_flatMap]
    exact congrArg (fun f => pieces.flatMap f) (funext copies_audioSource)
  repair hi := by
    rw [hi]
    split
    · next henabled =>
      rw [List.map_eq_flatMap]
      refine congrArg (fun f => pieces.flatMap f) (funext fun piece => ?_)
      rw [copies_audioRepair, if_pos henabled]
    · next hdisabled =>
      refine List.flatMap_eq_nil_iff.mpr fun piece _ => ?_
      rw [copies_audioRepair, if_neg hdisabled]
  kind piece _ := Packet.encode_packet_repair piece stream
  other hsource hrepair :=
    List.flatMap_eq_nil_iff.mpr fun piece _ => copies_of_ne hsource hrepair piece
  numbered := hnumbered

/-- A write sends by a socket that an interface has for itself what `FansOut` says of the packets that
are cut by it, if the interface sends by it then. -/
theorem Site.exists_posts {site : Site} {h : PeerHandle} {slot : Slot} {i : Interface}
    {socket : SocketId} {fec : FecEncoding} {stream : UInt32} {p : Packetizer}
    (hreserves : site.Reserves socket h slot i) (hsending : IsSending site.state.peers h fec stream p)
    (hsender : site.sender? h slot i = some socket) (frame : Frame) :
    ∃ sent, FansOut fec stream p.seq i (site.cutBy h (.request (.write h frame))) sent ∧
      site.Posts (.request (.write h frame)) socket sent := by
  have hposts := site.posts_sentTo h frame socket
  rw [sentTo_handedBy hreserves (fun _ => hsending), if_pos hsender] at hposts
  refine ⟨_, fansOut_of_copies ?_, hposts⟩
  obtain ⟨q, hq, hflow⟩ := hsending
  rw [cutBy_eq hq hflow]
  exact (numbered_pushAll p _).1

/-- In every run in which the machine takes no number of a socket back, let an interface of a slot be
connected. It sends by a socket from then on, for as long as its peer is there and its slot is neither
broken nor made anew, and what is sent by this socket goes to the address of the endpoint. To this
socket are handed, in the whole run, the packets that are cut while the interface sends by it: on the
source interface the packets themselves, on the repair interface their second copies, and on any other
nothing. They are in the order in which they were cut, with numbers in a row. By every write the
packets that it cuts are sent by the socket, and come to wait at the other end. Whatever happens at any
moment, nothing is sent but such packets. -/
theorem fansOut_of_connect (machine : Machine) (events : List Happening)
    (hevents : ∀ e ∈ events, e.KeepsNumbers) :
    (∀ earlier later, events = earlier ++ later →
      (({ machine } : Site).afterAll earlier).SendsOnly) ∧
    ∀ earlier later h slot i endpoint,
      events = earlier ++ .request (.connect h slot i endpoint) :: later →
      let before := ({ machine } : Site).afterAll earlier
      let after := (before.connect h slot i endpoint).2
      (before.connect h slot i endpoint).1 = .ok () →
        ∃ fec stream p socket, IsSending after.state.peers h fec stream p ∧
          after.sender? h slot i = some socket ∧
          (∃ remote, resolve before.machine.host endpoint false = .ok remote ∧
            after.machine.network.remote? socket = some remote) ∧
          (∀ sooner rest q, later = sooner ++ rest → renewed h slot sooner after = false →
            (after.afterAll sooner).state.peers.get? h = some q → (q.slot slot).broken = false →
              (after.afterAll sooner).sender? h slot i = some socket) ∧
          FansOut fec stream p.seq i (cutWhile h slot i socket later after)
            (handedTo socket events { machine }) ∧
          (∀ sooner rest frame, later = sooner ++ .request (.write h frame) :: rest →
            (after.afterAll sooner).sender? h slot i = some socket →
              ∃ seq sent, FansOut fec stream seq i
                ((after.afterAll sooner).cutBy h (.request (.write h frame))) sent ∧
                (after.afterAll sooner).Posts (.request (.write h frame)) socket sent) := by
  refine ⟨fun _ _ _ => Site.sendsOnly _, ?_⟩
  intro earlier later h slot i endpoint hsplit before after hok
  have hanswer : (before.connect h slot i endpoint).1.failure? = none := by
    rw [hok]
    rfl
  obtain ⟨hsender, hnext, hremote, fec, stream, p, hsending⟩ := sender?_connect hanswer
  rw [hsplit, List.forall_mem_append, List.forall_mem_cons] at hevents
  obtain ⟨hearlier, -, hlater⟩ := hevents
  have hopens : before.OpensBeforeSending :=
    (Site.OpensBeforeSending.start machine).afterAll hearlier
  have hreserves : after.Reserves ⟨before.machine.network.next⟩ h slot i := hopens.reserves hnext
  obtain ⟨hhanded, hnumbered⟩ := handedTo_eq hreserves (fun _ => hsending) hlater
  -- Before the interface was connected there was no such socket.
  have hwhole : handedTo ⟨before.machine.network.next⟩ events { machine } =
      handedTo ⟨before.machine.network.next⟩ later after := by
    rw [hsplit, handedTo_append,
      handedTo_eq_nil (Site.OpensBeforeSending.start machine) hearlier (Nat.le_refl _)]
    rfl
  refine ⟨fec, stream, p, _, hsending, hsender, hremote,
    fun _ _ _ _ hkept hq hslot => sender?_afterAll hsender hkept hq hslot, ?_, ?_⟩
  · rw [hwhole, hhanded]
    exact fansOut_of_copies hnumbered
  · intro sooner rest frame hrest hstill
    rw [hrest, List.forall_mem_append] at hlater
    obtain ⟨p', hsending'⟩ :=
      exists_sending_afterAll hreserves (fun _ => hsending) hlater.1 hstill
    obtain ⟨sent, hfans, hposts⟩ :=
      Site.exists_posts (hreserves.afterAll hlater.1) hsending' hstill frame
    exact ⟨p'.seq, sent, hfans, hposts⟩

/-- A machine on which somebody listens at a port. -/
def listening : Machine where
  host := .selfContained
  network := (Network.empty.add { own := ⟨.v4 .localhost, 5001⟩, shared := false }).2
  random _ := 7

/-- Two interfaces of a slot are connected, and four samples are written; then the slot is taken down,
and two more are written. -/
def connectedAndWritten : List Happening := [
  .request (.contextOpen {}),
  .request (.peerOpen ⟨1⟩ (.sender {
    frameEncoding := .new 2000 .mono, packetLength := .ofMillis 1, fecEncoding := .rs8m })),
  .request (.connect ⟨2⟩ ⟨0⟩ .audioSource ⟨some .rtpRs8mSource, "127.0.0.1", 5000, ""⟩),
  .request (.write ⟨2⟩ [1, 2, 3]),
  .request (.connect ⟨2⟩ ⟨0⟩ .audioRepair ⟨some .rs8mRepair, "localhost", 5001, ""⟩),
  .request (.write ⟨2⟩ [4]),
  .request (.unlink ⟨2⟩ ⟨0⟩),
  .request (.write ⟨2⟩ [5, 6])]

/-- Of the three packets that are cut, the repair interface gets a copy of the second one, and this
comes to wait for the listener. -/
theorem fansOut_of_connect_connectedAndWritten :
    let endpoint : Endpoint := ⟨some .rs8mRepair, "localhost", 5001, ""⟩
    let before := ({ machine := listening } : Site).afterAll (connectedAndWritten.take 4)
    let after := (before.connect ⟨2⟩ ⟨0⟩ .audioRepair endpoint).2
    let copy := Packet.encode ⟨.repair, 7, 1, [3, 4]⟩
    (∀ e ∈ connectedAndWritten, e.KeepsNumbers) ∧
      connectedAndWritten = connectedAndWritten.take 4 ++
        .request (.connect ⟨2⟩ ⟨0⟩ .audioRepair endpoint) :: connectedAndWritten.drop 5 ∧
      (before.connect ⟨2⟩ ⟨0⟩ .audioRepair endpoint).1 = .ok () ∧
      handedTo ⟨2⟩ connectedAndWritten { machine := listening } = [copy] ∧
      (⟨0⟩, copy) ∈ (after.after (.request (.write ⟨2⟩ [4]))).machine.network.waiting := by
  intro endpoint before after copy
  have hkeeps : ∀ e ∈ connectedAndWritten, e.KeepsNumbers := by
    simp [connectedAndWritten, Happening.KeepsNumbers]
  have hok : (before.connect ⟨2⟩ ⟨0⟩ .audioRepair endpoint).1 = .ok () := by decide +kernel
  obtain ⟨-, hfans⟩ := fansOut_of_connect listening connectedAndWritten hkeeps
  have hconnected := hfans (connectedAndWritten.take 4) (connectedAndWritten.drop 5) ⟨2⟩ ⟨0⟩
    .audioRepair endpoint rfl hok
  have hflow : (after.state.peers.get? ⟨2⟩).map (fun q =>
      q.flow.casesOn (fun fec stream _ => some (fec, stream)) fun _ => none) =
        some (some (.rs8m, 7)) := by
    decide +kernel
  have hsocket : after.sender? ⟨2⟩ ⟨0⟩ .audioRepair = some ⟨2⟩ := by decide +kernel
  have hpieces : cutWhile ⟨2⟩ ⟨0⟩ .audioRepair ⟨2⟩ (connectedAndWritten.drop 5) after =
      [⟨1, [3, 4]⟩] := by
    decide +kernel
  have hcut : after.cutBy ⟨2⟩ (.request (.write ⟨2⟩ [4])) = [⟨1, [3, 4]⟩] := by decide +kernel
  have harrives : after.machine.network.arrival? after.machine.host (⟨2⟩, copy) =
      some (⟨0⟩, copy) := by
    decide +kernel
  have hafter : (before.connect ⟨2⟩ ⟨0⟩ .audioRepair endpoint).2 = after := rfl
  have hbefore : ({ machine := listening } : Site).afterAll (connectedAndWritten.take 4) = before :=
    rfl
  rw [hbefore, hafter] at hconnected
  -- Nothing more is computed.
  clear_value after before
  obtain ⟨fec, stream, p, socket, ⟨q, hq, hsending⟩, hsender, -, -, hfans, hposts⟩ := hconnected
  obtain rfl := Option.some.inj (hsocket.symm.trans hsender)
  rw [hq, Option.map_some, hsending, Option.some.injEq, Option.some.injEq, Prod.mk.injEq] at hflow
  obtain ⟨rfl, rfl⟩ := hflow
  refine ⟨hkeeps, rfl, hok, ?_, ?_⟩
  · rw [hfans.repair rfl, hpieces]
    rfl
  · obtain ⟨seq, sent, hsent, arrived, hwaiting, harrived⟩ := hposts [] _ [4] rfl hsocket
    have hstart : after.afterAll [] = after := rfl
    rw [hstart] at hwaiting hsent harrived
    have hcopy : copy ∈ sent := by
      rw [hsent.repair rfl, hcut]
      exact List.mem_singleton_self _
    rw [hwaiting]
    exact List.mem_append_right _
      (harrived.subset (List.mem_filterMap.mpr ⟨copy, hcopy, harrives⟩))

end Loopback
end AudioLink
