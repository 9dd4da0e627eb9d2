import AudioLink.Proofs.Loopback.Cutting
import AudioLink.Proofs.Loopback.Datagram
import AudioLink.Proofs.Loopback.Reception
import AudioLink.Proofs.Loopback.Sizes

/-
What is written is what is heard.

A sender cuts the frames that are written to it into pieces, and each piece travels in copies: as a
source packet, as a repair packet, or as either more than once. The network is not modelled here; it
is a list of copies that arrive, and `Delivers` says what is asked of it. Then the receiver takes
exactly one copy of each piece, in order, so that the samples that go through its queue are those
that were written, up to the last whole piece.

The induction is on the copies that are still to come. What is carried along is how many pieces have
been seen: these are the first ones, the position of the slot is that of the last of them, and the
next copy is either of one of them, and stale, or of the piece behind them.
-/
set_option autoImplicit false

namespace AudioLink.Loopback

/-! ## Copies of pieces -/

/-- A copy of a piece that arrives at a socket. -/
structure Copy where
  socket : SocketId
  kind : PacketKind
  /-- The place of the piece among all pieces of its stream, from zero on. -/
  index : Nat
  piece : Piece

namespace Copy

/-- The packet that a copy is. -/
def packet (stream : UInt32) (c : Copy) : Packet := ⟨c.kind, stream, c.piece.seq, c.piece.samples⟩

/-- The datagram that a copy travels in, with the socket at which it arrives. -/
def datagram (stream : UInt32) (c : Copy) : SocketId × Bytes :=
  (c.socket, (c.packet stream).encode)

end Copy

/-- Copies of the pieces of a stream arrive at a slot of a peer: each piece at least once, for the
first time before any copy of a later piece, and again only while the newest piece is less than the
resynchronisation gap ahead. -/
structure Delivers (q : PeerState) (slot : Slot) (stream : UInt32) (pieces : List Piece)
    (copies : List Copy) : Prop where
  piece : ∀ c ∈ copies, pieces[c.index]? = some c.piece
  socket : ∀ c ∈ copies, q.slotOfSocket? c.socket = some slot
  /-- No datagram is longer than the buffer of a receiver, which holds 65536 bytes. What is sent over
  a network is shorter still (`Network.maxDatagram`), so a longer one does not arrive at all. -/
  length : ∀ c ∈ copies, (c.packet stream).encode.length ≤ maxReceived
  whole : ∀ i < pieces.length, ∃ c ∈ copies, c.index = i
  ordered : ∀ before c behind, copies = before ++ c :: behind →
    ∀ i < c.index, ∃ d ∈ before, d.index = i
  recent : ∀ before c behind, copies = before ++ c :: behind →
    (∃ d ∈ before, d.index = c.index) →
      ∀ d ∈ before, (d.index : Int) - c.index < StreamPosition.resyncGap

/-- The pieces of a stream are numbered in a row from `base` on. -/
def Numbered (base : UInt32) (pieces : List Piece) : Prop :=
  ∀ (i : Nat) (piece : Piece), pieces[i]? = some piece → piece.seq = base + UInt32.ofNat i

/-- The position of a slot at which so many pieces of a stream have been seen. -/
def positionAt (stream base : UInt32) : Nat → Option StreamPosition
  | 0 => none
  | n + 1 => some ⟨stream, base + UInt32.ofNat n⟩

namespace Delivers

variable {q : PeerState} {slot : Slot} {stream base : UInt32} {pieces : List Piece}
  {copies before behind : List Copy} {c : Copy} {n : Nat}

/-- A copy of a piece that has been seen is stale. -/
theorem isStale_of_seen (hdelivers : Delivers q slot stream pieces copies)
    (hnumbered : Numbered base pieces) (hsplit : copies = before ++ c :: behind)
    (hseen : ∀ i, (∃ d ∈ before, d.index = i) ↔ i < n + 1) (hc : c.index < n + 1) :
    (⟨stream, base + UInt32.ofNat n⟩ : StreamPosition).isStale (c.packet stream) = true := by
  have hmem : c ∈ copies := by
    rw [hsplit]
    exact List.mem_append_right _ List.mem_cons_self
  have hseq : (c.packet stream).seq = base + UInt32.ofNat c.index :=
    hnumbered c.index c.piece (hdelivers.piece c hmem)
  obtain ⟨newest, hnewest, hindex⟩ := (hseen n).mpr (Nat.lt_succ_self n)
  have hrecent := hdelivers.recent before c behind hsplit ((hseen c.index).mpr hc) newest hnewest
  rw [hindex, StreamPosition.resyncGap] at hrecent
  have hahead : (⟨stream, base + UInt32.ofNat n⟩ : StreamPosition).ahead
      (c.packet stream).seq = c.index - n := by
    rw [hseq]
    exact StreamPosition.ahead_ofNat stream base (by omega) (by omega)
  rw [StreamPosition.isStale, hahead, StreamPosition.resyncGap]
  simp only [Copy.packet, decide_true, Bool.true_and, Bool.and_eq_true, decide_eq_true_eq]
  omega

/-- A copy of the next piece is not stale. -/
theorem not_isStale_of_next (hdelivers : Delivers q slot stream pieces copies)
    (hnumbered : Numbered base pieces) (hmem : c ∈ copies) (hc : c.index = n) :
    (positionAt stream base n).any (·.isStale (c.packet stream)) = false := by
  cases n with
  | zero => rfl
  | succ last =>
    have hseq : (c.packet stream).seq = base + UInt32.ofNat (last + 1) := by
      rw [← hc]
      exact hnumbered c.index c.piece (hdelivers.piece c hmem)
    have hahead : (⟨stream, base + UInt32.ofNat last⟩ : StreamPosition).ahead
        (c.packet stream).seq = (last + 1 : Nat) - last := by
      rw [hseq]
      exact StreamPosition.ahead_ofNat stream base (by omega) (by omega)
    rw [positionAt, Option.any_some, StreamPosition.isStale, hahead]
    simp only [Bool.and_eq_false_iff, decide_eq_false_iff_not]
    exact .inl (.inr (by omega))

/-- A copy of a piece that has not been seen is of the piece behind those that have. -/
theorem index_eq_of_not_seen (hdelivers : Delivers q slot stream pieces copies)
    (hsplit : copies = before ++ c :: behind)
    (hseen : ∀ i, (∃ d ∈ before, d.index = i) ↔ i < n) (hc : ¬ c.index < n) :
    c.index = n := by
  refine Nat.le_antisymm (Nat.le_of_not_lt fun hlater => ?_) (Nat.le_of_not_lt hc)
  -- The next piece would have been passed over.
  have hpassed := (hseen n).mp (hdelivers.ordered before c behind hsplit n hlater)
  exact Nat.lt_irrefl n hpassed

/-- The filter takes one copy of each piece that has not been seen, in order. -/
theorem map_samples_newer (hdelivers : Delivers q slot stream pieces copies)
    (hnumbered : Numbered base pieces) (hsplit : copies = before ++ behind)
    (hseen : ∀ i, (∃ d ∈ before, d.index = i) ↔ i < n) :
    (StreamPosition.newer (positionAt stream base n) (behind.map (Copy.packet stream))).map
      Packet.samples = (pieces.drop n).map Piece.samples := by
  -- What has come in so far is the first `n` pieces, each at least once; this is carried along.
  induction behind generalizing before n with
  | nil =>
    have hall : pieces.length ≤ n := by
      refine Nat.le_of_not_lt fun hmissing => ?_
      obtain ⟨c, hc, hindex⟩ := hdelivers.whole n hmissing
      rw [hsplit, List.append_nil] at hc
      exact Nat.lt_irrefl n ((hseen n).mp ⟨c, hc, hindex⟩)
    rw [List.drop_eq_nil_of_le hall]
    rfl
  | cons c behind ih =>
    have hnext : copies = (before ++ [c]) ++ behind := by
      rw [hsplit, List.append_assoc, List.singleton_append]
    have hmem : c ∈ copies := by
      rw [hsplit]
      exact List.mem_append_right _ List.mem_cons_self
    rw [List.map_cons]
    -- A piece that was seen is stale. One that was not can only be the next, as none comes too
    -- early.
    by_cases hc : c.index < n
    · obtain ⟨last, rfl⟩ : ∃ last, n = last + 1 := ⟨n - 1, by omega⟩
      have hstale := hdelivers.isStale_of_seen hnumbered hsplit hseen hc
      rw [positionAt, StreamPosition.newer_of_isStale _ hstale]
      refine ih (n := last + 1) hnext fun i => ?_
      rw [← hseen i]
      constructor
      · rintro ⟨d, hd, rfl⟩
        rcases List.mem_append.mp hd with hd | hd
        · exact ⟨d, hd, rfl⟩
        · rw [List.mem_singleton.mp hd]
          exact (hseen c.index).mpr hc
      · rintro ⟨d, hd, rfl⟩
        exact ⟨d, List.mem_append_left _ hd, rfl⟩
    · have hindex := hdelivers.index_eq_of_not_seen hsplit hseen hc
      have hnew := hdelivers.not_isStale_of_next hnumbered hmem hindex
      have hpiece : pieces[n]? = some c.piece := hindex ▸ hdelivers.piece c hmem
      have hposition : (some ⟨(c.packet stream).stream, (c.packet stream).seq⟩ :
          Option StreamPosition) = positionAt stream base (n + 1) := by
        rw [positionAt, show (c.packet stream).seq = c.piece.seq from rfl,
          hnumbered n c.piece hpiece]
        rfl
      have hdrop : pieces.drop n = c.piece :: pieces.drop (n + 1) := by
        obtain ⟨hlt, hget⟩ := List.getElem?_eq_some_iff.mp hpiece
        rw [List.drop_eq_getElem_cons hlt, hget]
      rw [StreamPosition.newer_of_not_isStale _ hnew, hposition, List.map_cons, hdrop,
        List.map_cons]
      refine congrArg (c.piece.samples :: ·) (ih hnext fun i => ?_)
      constructor
      · rintro ⟨d, hd, rfl⟩
        rcases List.mem_append.mp hd with hd | hd
        · exact Nat.lt_succ_of_lt ((hseen d.index).mp ⟨d, hd, rfl⟩)
        · rw [List.mem_singleton.mp hd, hindex]
          exact Nat.lt_succ_self n
      · intro hi
        by_cases hlast : i = n
        · exact ⟨c, List.mem_append_right _ (List.mem_singleton_self c), hindex.trans hlast.symm⟩
        · obtain ⟨d, hd, hd'⟩ := (hseen i).mpr (by omega)
          exact ⟨d, List.mem_append_left _ hd, hd'⟩

/-- What a fresh slot hears are all pieces in order. -/
theorem heard_eq_join (hdelivers : Delivers q slot stream pieces copies)
    (hnumbered : Numbered base pieces)
    (hframes : ∀ piece ∈ pieces, piece.samples.length % q.channels = 0)
    {p : Playout} {receptions : List Reception} (hfresh : p.positions.get? slot = none)
    (hinbox : p.inbox = []) (hcopies : datagrams receptions = copies.map (Copy.datagram stream))
    (hroom : HasRoom q p receptions) :
    (heard q p receptions).flatMap Packet.samples = Piece.join pieces := by
  have harrivals : (datagrams receptions).map (fun d =>
      (q.slotOfSocket? d.1, acceptable? q.channels d.2)) =
        (copies.map (Copy.packet stream)).map fun x => (some slot, some x) := by
    rw [hcopies, List.map_map, List.map_map]
    refine List.map_congr_left fun c hc => ?_
    have hpiece : c.piece ∈ pieces := List.mem_of_getElem? (hdelivers.piece c hc)
    have hpacket : acceptable? q.channels (c.packet stream).encode = some (c.packet stream) :=
      acceptable?_encode (hdelivers.length c hc) (hframes c.piece hpiece)
    simp only [Function.comp_apply, Copy.datagram, hdelivers.socket c hc, hpacket]
  have hheard := heard_of_slot p receptions _ (by rw [hinbox]; nofun) hroom harrivals
  rw [hinbox, hfresh, List.map_nil, List.nil_append] at hheard
  have hsamples := hdelivers.map_samples_newer hnumbered (List.nil_append copies).symm (n := 0)
    (by simp)
  rw [hheard, List.flatMap_def, Piece.join, List.flatMap_def]
  exact congrArg List.flatten hsamples

end Delivers

/-! ## The pieces of a sender -/

theorem numbered_push (p : Packetizer) (frame : Frame) : Numbered p.seq (p.push frame).1 := by
  intro i piece hpiece
  rw [Packetizer.push_eq, Packetizer.getElem?_number] at hpiece
  obtain ⟨run, -, rfl⟩ := Option.map_eq_some_iff.mp hpiece
  rfl

/-- The pieces of a stream that is begun are what is written, up to the last whole piece. -/
theorem join_pushAll {channels : Nat} {p : Packetizer} (hbegun : IsBegun channels p)
    (frames : List Frame) :
    Numbered p.seq (p.pushAll frames).1 ∧
      (∀ piece ∈ (p.pushAll frames).1, piece.samples.length % channels = 0) ∧
      Piece.join (p.pushAll frames).1 =
        frames.flatten.take (frames.flatten.length / p.size * p.size) := by
  have hpending : p.pending.length < p.size := by
    rw [hbegun.pending]
    exact p.size_pos
  rw [p.pushAll_eq_push_flatten frames hpending]
  refine ⟨numbered_push p _, fun piece hpiece => ?_, ?_⟩
  · rw [p.length_of_mem_push hpiece]
    exact Nat.mod_eq_zero_of_dvd hbegun.size
  · rw [Packetizer.push_eq, Packetizer.join_number, Packetizer.flatten_cut_eq_take, hbegun.pending,
      List.nil_append]

/-! ## From end to end -/

/-- A sender and a receiver with the same number of channels are opened, with any configurations.
Frames of any lengths are written to the sender, and their pieces are delivered to a slot of the
receiver that has not heard anything yet. Then the samples that are taken are those that were
written, up to the last whole piece, and what is played and what stays queued are these samples in
this order, behind what was queued before. That all pieces are delivered (`Delivers`) includes that
each datagram fits into the 65536 bytes of the buffer into which a receiver reads it. -/
theorem heard_eq_written {site site' : Site} {c c' : ContextHandle} {sender : SenderConfig}
    {receiver : ReceiverConfig} {h h' : PeerHandle}
    (hsender : (site.openPeer c (.sender sender)).1 = .ok h)
    (hreceiver : (site'.openPeer c' (.receiver receiver)).1 = .ok h')
    (hchannels : sender.frameEncoding.channelCount = receiver.frameEncoding.channelCount) :
    ∃ stream packetizer opened,
      ((site.openPeer c (.sender sender)).2.state.peers.get? h).map PeerState.flow =
        some (.sending sender.fecEncoding stream packetizer) ∧
      (site'.openPeer c' (.receiver receiver)).2.state.peers.get? h' = some opened ∧
      ∀ (slots : Table Slot SlotState) (slot : Slot) (p : Playout) (frames : List Frame)
        (receptions : List Reception) (copies : List Copy),
        let q := { opened with slots }
        let written := frames.flatten
        let whole := written.take (written.length / packetizer.size * packetizer.size)
        p.positions.get? slot = none → p.inbox = [] →
        datagrams receptions = copies.map (Copy.datagram stream) →
        Delivers q slot stream (packetizer.pushAll frames).1 copies →
        HasRoom q p receptions →
        (heard q p receptions).flatMap Packet.samples = whole ∧
          playedIn q p receptions ++ (receptions.foldl (meet q) p).drain.queue =
            p.queue ++ whole := by
  rcases site.openPeer_spec c (.sender sender) with ⟨code, hrefused, -⟩ |
    ⟨k, s, -, hs, hok, hstate⟩
  · exact absurd (hsender.symm.trans hrefused) nofun
  rcases site'.openPeer_spec c' (.receiver receiver) with ⟨code, hrefused, -⟩ |
    ⟨k', opened, -, hopened, hok', hstate'⟩
  · exact absurd (hreceiver.symm.trans hrefused) nofun
  obtain rfl : h = _ := Except.ok.inj (hsender.symm.trans hok)
  obtain rfl : h' = _ := Except.ok.inj (hreceiver.symm.trans hok')
  obtain ⟨context, stream, hflow⟩ := hs.flow
  obtain ⟨packetizer, hsending, hbegun⟩ := exists_of_flow?_sender hflow
  refine ⟨stream, packetizer, opened, ?_, ?_, ?_⟩
  · rw [hstate, Table.get?_insert_self, Option.map_some, hsending]
  · rw [hstate', Table.get?_insert_self]
  intro slots slot p frames receptions copies q written whole hfresh hinbox hcopies hdelivers hroom
  -- From here on only the packetizer of the sender and the number of channels matter.
  obtain ⟨hnumbered, hframes, hjoin⟩ := join_pushAll hbegun frames
  have hq : q.channels = sender.frameEncoding.channelCount := hopened.channels.trans hchannels.symm
  have hheard := hdelivers.heard_eq_join hnumbered (by rwa [hq]) hfresh hinbox hcopies hroom
  rw [hjoin] at hheard
  refine ⟨hheard, ?_⟩
  rw [playedIn_append_queue p receptions hroom, hheard]

/-- Three copies of two pieces: a repair packet comes late, and a source packet never. -/
def threeCopies : List Copy := [
  ⟨⟨0⟩, .source, 0, ⟨0, [1, 2]⟩⟩, ⟨⟨1⟩, .repair, 0, ⟨0, [1, 2]⟩⟩, ⟨⟨1⟩, .repair, 1, ⟨1, [3, 4]⟩⟩]

/-- Of five samples that are written, the four that fill packets are heard. -/
theorem heard_eq_written_threeCopies :
    let mono : MediaEncoding := .new 2000 .mono
    let machine : Machine := { host := .selfContained, random := fun _ => 7 }
    let site := (({ machine } : Site).openContext {}).2
    let sender : SenderConfig := { frameEncoding := mono, packetLength := .ofMillis 1 }
    let receiver : ReceiverConfig := { frameEncoding := mono }
    let slots := Table.empty.insert ⟨0⟩ { links :=
      { audioSource := some (.bound ⟨0⟩), audioRepair := some (.bound ⟨1⟩) } }
    let receptions := threeCopies.flatMap fun c =>
      [.datagram (c.datagram 7).1 (c.datagram 7).2, .read 1]
    (site.openPeer ⟨1⟩ (.sender sender)).1 = .ok ⟨2⟩ ∧
      (site.openPeer ⟨1⟩ (.receiver receiver)).1 = .ok ⟨2⟩ ∧
      ∃ opened, (site.openPeer ⟨1⟩ (.receiver receiver)).2.state.peers.get? ⟨2⟩ = some opened ∧
        (heard { opened with slots } { prebuffer := 1, capacity := 8 } receptions).flatMap
          Packet.samples = [1, 2, 3, 4] := by
  intro mono machine site sender receiver slots receptions
  have hsender : (site.openPeer ⟨1⟩ (.sender sender)).1 = .ok ⟨2⟩ := by decide +kernel
  have hreceiver : (site.openPeer ⟨1⟩ (.receiver receiver)).1 = .ok ⟨2⟩ := by decide +kernel
  obtain ⟨stream, packetizer, opened, hflow, hopened, hheard⟩ :=
    heard_eq_written hsender hreceiver rfl
  have hcut : ((site.openPeer ⟨1⟩ (.sender sender)).2.state.peers.get? ⟨2⟩).map (fun q =>
      q.flow.casesOn (fun _ stream p => (stream, p.size, (p.pushAll [[1, 2, 3], [4, 5]]).1))
        fun _ => (0, 0, [])) = some (7, 2, [⟨0, [1, 2]⟩, ⟨1, [3, 4]⟩]) := by
    decide +kernel
  have hfits : ((site.openPeer ⟨1⟩ (.receiver receiver)).2.state.peers.get? ⟨2⟩).map (fun q =>
      decide (HasRoom { q with slots } { prebuffer := 1, capacity := 8 } receptions ∧
        ∀ c ∈ threeCopies, ({ q with slots } : PeerState).slotOfSocket? c.socket = some ⟨0⟩)) =
      some true := by
    decide +kernel
  obtain ⟨q, hq, hq'⟩ := Option.map_eq_some_iff.mp hflow
  rw [hq, Option.map_some, hq', Option.some.injEq, Prod.mk.injEq, Prod.mk.injEq] at hcut
  obtain ⟨rfl, hsize, hpieces⟩ := hcut
  rw [hopened, Option.map_some, Option.some.injEq, decide_eq_true_eq] at hfits
  obtain ⟨hroom, hsocket⟩ := hfits
  have hbound : ∀ e ∈ threeCopies, e.index < 2 := by decide
  -- Both pieces come, the first one twice, and none comes before the other has been seen.
  have hdelivers : Delivers { opened with slots } ⟨0⟩ 7 (packetizer.pushAll [[1, 2, 3], [4, 5]]).1
      threeCopies := by
    rw [hpieces]
    refine ⟨by decide, hsocket, by decide, by decide, fun before c behind hsplit i hi => ?_,
      fun before c behind hsplit _ d hd => ?_⟩
    · have hc := hbound c (by rw [hsplit]; exact List.mem_append_right _ List.mem_cons_self)
      cases before with
      | nil =>
        obtain rfl := (List.cons.inj hsplit).1
        exact absurd hi (Nat.not_lt_zero i)
      | cons d before =>
        obtain rfl := (List.cons.inj hsplit).1
        have hzero : i = 0 := by omega
        exact ⟨_, List.mem_cons_self, hzero.symm⟩
    · have hd' := hbound d (by rw [hsplit]; exact List.mem_append_left _ hd)
      rw [StreamPosition.resyncGap]
      omega
  obtain ⟨hall, -⟩ := hheard slots ⟨0⟩ { prebuffer := 1, capacity := 8 } [[1, 2, 3], [4, 5]]
    receptions threeCopies rfl rfl rfl hdelivers hroom
  refine ⟨hsender, hreceiver, opened, hopened, ?_⟩
  rw [hall, hsize]
  rfl

end AudioLink.Loopback
