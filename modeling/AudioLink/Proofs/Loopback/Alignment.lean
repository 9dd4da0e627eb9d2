import AudioLink.Proofs.Loopback.Cutting
import AudioLink.Proofs.Loopback.Datagram
import AudioLink.Proofs.Loopback.History
import AudioLink.Proofs.Loopback.Reception

/-
Samples stay in their channels.

The channel of a sample is its position modulo the number of channels. It is nowhere written down,
so all that keeps channels apart is that samples move in whole frames only. There are two places
where samples wait: the remainder of a sender that has not filled a packet, and the queue of a
receiver. Both are a `Backlog`: whole frames are added behind, and whole frames are taken from the
front. That a sample leaves a backlog in the channel in which it came is proved once, for both.
-/
set_option autoImplicit false

namespace AudioLink

/-! ## Backlogs -/

/-- Samples that wait: blocks of whole frames from a source have been added behind, and whole frames
have been taken from the front. -/
inductive Backlog (channels : Nat) (source : List Frame) : Frame → Prop
  | nil : Backlog channels source []
  | add {s block : Frame} (hs : Backlog channels source s) (hblock : block ∈ source)
      (hframes : channels ∣ block.length) : Backlog channels source (s ++ block)
  | drop {s : Frame} {n : Nat} (hs : Backlog channels source s) (hframes : channels ∣ n) :
      Backlog channels source (s.drop n)

/-- Every sample is in the channel in which it was in some block of the source. -/
def InPlace (channels : Nat) (source : List Frame) (s : Frame) : Prop :=
  ∀ (k : Nat) (x : Sample), s[k]? = some x →
    ∃ block ∈ source, ∃ i : Nat, block[i]? = some x ∧ i % channels = k % channels

/-- A beginning of samples in place is in place. -/
theorem InPlace.take {channels : Nat} {source : List Frame} {s : Frame}
    (hs : InPlace channels source s) (n : Nat) : InPlace channels source (s.take n) := by
  intro k x hx
  rw [List.getElem?_take] at hx
  split at hx
  · exact hs k x hx
  · exact absurd hx nofun

namespace Backlog

variable {channels : Nat} {source source' : List Frame} {s : Frame}

/-- A backlog of some blocks is one of more. -/
theorem mono (hs : Backlog channels source s) (hsource : ∀ block ∈ source, block ∈ source') :
    Backlog channels source' s := by
  induction hs with
  | nil => exact .nil
  | add _ hblock hframes ih => exact ih.add (hsource _ hblock) hframes
  | drop _ hframes ih => exact ih.drop hframes

/-- A backlog is whole frames. -/
theorem dvd_length (hs : Backlog channels source s) : channels ∣ s.length := by
  induction hs with
  | nil => exact Nat.dvd_zero channels
  | add _ _ hframes ih =>
    rw [List.length_append]
    exact Nat.dvd_add ih hframes
  | drop _ hframes ih =>
    rw [List.length_drop]
    exact Nat.dvd_sub ih hframes

/-- A backlog is in place. -/
theorem inPlace (hs : Backlog channels source s) : InPlace channels source s := by
  induction hs with
  | nil =>
    intro k x hx
    exact absurd hx nofun
  | @add s block hs hblock hframes ih =>
    intro k x hx
    rw [List.getElem?_append] at hx
    split at hx
    · exact ih k x hx
    · rename_i hk
      refine ⟨block, hblock, k - s.length, hx, ?_⟩
      obtain ⟨m, hm⟩ := hs.dvd_length
      have hsplit : k = k - s.length + channels * m := by omega
      rw [hsplit, Nat.add_mul_mod_self_left, ← hsplit]
  | @drop s n _ hframes ih =>
    intro k x hx
    rw [List.getElem?_drop] at hx
    obtain ⟨block, hblock, i, hi, hchannel⟩ := ih (n + k) x hx
    refine ⟨block, hblock, i, hi, ?_⟩
    obtain ⟨m, rfl⟩ := hframes
    rw [hchannel, Nat.mul_add_mod]

end Backlog

/-! ## Senders -/

namespace Packetizer

variable {channels size : Nat} {source : List Frame}

/-- Whole frames are cut out of a backlog, and what remains is one. -/
theorem backlog_cut (hsize : 0 < size) (hframes : channels ∣ size) {s : Frame}
    (hs : Backlog channels source s) :
    Backlog channels source (cut size hsize s).2 ∧
      ∀ run ∈ (cut size hsize s).1, InPlace channels source run := by
  induction s using cut.induct size hsize with
  | case1 s hle runs rest _ ih =>
    obtain ⟨hrest, hruns⟩ := ih (hs.drop hframes)
    rw [cut_of_le hsize hle]
    refine ⟨hrest, fun run hrun => ?_⟩
    rcases List.mem_cons.mp hrun with rfl | hrun
    · exact hs.inPlace.take size
    · exact hruns run hrun
  | case2 s hlt =>
    rw [cut_of_lt hsize (Nat.lt_of_not_le hlt)]
    exact ⟨hs, fun run hrun => absurd hrun List.not_mem_nil⟩

/-- A stream of whole packets, of which written frames are pending. -/
structure IsAligned (channels : Nat) (written : List Frame) (p : Packetizer) : Prop where
  size : channels ∣ p.size
  pending : Backlog channels written p.pending

variable {written written' : List Frame} {p : Packetizer}

/-- A packetizer is aligned to more than was written. -/
theorem IsAligned.mono (hp : p.IsAligned channels written)
    (hwritten : ∀ frame ∈ written, frame ∈ written') : p.IsAligned channels written' :=
  ⟨hp.size, hp.pending.mono hwritten⟩

/-- A written frame leaves a remainder of whole frames, and the pieces that it completes hold whole
frames, with every sample in its channel. -/
theorem IsAligned.push (hp : p.IsAligned channels written) {frame : Frame}
    (hframe : channels ∣ frame.length) :
    (p.push frame).2.IsAligned channels (written ++ [frame]) ∧
      ∀ piece ∈ (p.push frame).1, channels ∣ piece.samples.length ∧
        InPlace channels (written ++ [frame]) piece.samples := by
  have hold : Backlog channels (written ++ [frame]) p.pending :=
    hp.pending.mono fun block hblock => List.mem_append_left _ hblock
  have hall : Backlog channels (written ++ [frame]) (p.pending ++ frame) :=
    hold.add (List.mem_append_right _ (List.mem_singleton_self frame)) hframe
  obtain ⟨hpending, hruns⟩ := backlog_cut p.size_pos hp.size hall
  refine ⟨⟨hp.size, hpending⟩, fun piece hpiece => ⟨?_, ?_⟩⟩
  · rw [length_of_mem_push p hpiece]
    exact hp.size
  · have hrun : piece.samples ∈ (p.push frame).1.map Piece.samples := List.mem_map_of_mem hpiece
    rw [push_eq, map_samples_number] at hrun
    exact hruns _ hrun

end Packetizer

/-! ## Receivers -/

namespace Playout

/-- A receiving side that waits for whole frames, and has received packets of whole frames. -/
structure IsAligned (channels : Nat) (received : List Packet) (p : Playout) : Prop where
  prebuffer : channels ∣ p.prebuffer
  capacity : channels ∣ p.capacity
  inbox : ∀ x ∈ p.inbox, x.2 ∈ received ∧ channels ∣ x.2.samples.length
  queue : Backlog channels (received.map Packet.samples) p.queue

namespace IsAligned

variable {channels : Nat} {received received' : List Packet} {p : Playout}

/-- A receiver is aligned to more than it received. -/
theorem mono (hp : p.IsAligned channels received) (hreceived : ∀ x ∈ received, x ∈ received') :
    p.IsAligned channels received' where
  prebuffer := hp.prebuffer
  capacity := hp.capacity
  inbox x hx := ⟨hreceived _ (hp.inbox x hx).1, (hp.inbox x hx).2⟩
  queue := hp.queue.mono fun block hblock => by
    obtain ⟨x, hx, rfl⟩ := List.mem_map.mp hblock
    exact List.mem_map_of_mem (hreceived x hx)

/-- A packet of whole frames that arrives keeps a receiver aligned. -/
theorem deliver (hp : p.IsAligned channels received) (slot : Slot) {x : Packet} (hx : x ∈ received)
    (hframes : channels ∣ x.samples.length) : (p.deliver slot x).IsAligned channels received := by
  unfold Playout.deliver
  split
  · refine ⟨hp.prebuffer, hp.capacity, fun y hy => ?_, hp.queue⟩
    rcases List.mem_append.mp hy with hy | hy
    · exact hp.inbox y hy
    · rw [List.mem_singleton.mp hy]
      exact ⟨hx, hframes⟩
  · exact hp

/-- What is dropped to make room for a packet are whole frames. -/
theorem dvd_excess (hp : p.IsAligned channels received) {samples : Frame}
    (hframes : channels ∣ samples.length) : channels ∣ p.excess samples := by
  rw [excess, List.length_append]
  exact Nat.dvd_sub (Nat.dvd_add hp.queue.dvd_length hframes) hp.capacity

/-- A packet of whole frames that is accepted keeps a receiver aligned. -/
theorem accept (hp : p.IsAligned channels received) (slot : Slot) {x : Packet} (hx : x ∈ received)
    (hframes : channels ∣ x.samples.length) : (p.accept slot x).IsAligned channels received := by
  cases haccepts : p.accepts slot x with
  | false =>
    rw [accept_of_not_accepts haccepts]
    exact hp
  | true =>
    have hqueue : Backlog channels (received.map Packet.samples) (p.queue ++ x.samples) :=
      hp.queue.add (List.mem_map_of_mem hx) hframes
    rw [accept_of_accepts haccepts]
    exact ⟨hp.prebuffer, hp.capacity, hp.inbox, hqueue.drop (hp.dvd_excess hframes)⟩

/-- Packets of whole frames are taken one after the other, and what is dropped for each are whole
frames. -/
theorem takes (hp : p.IsAligned channels received) {inbox : List (Slot × Packet)}
    (hinbox : ∀ x ∈ inbox, x.2 ∈ received ∧ channels ∣ x.2.samples.length) :
    (inbox.foldl (fun p x => p.accept x.1 x.2) p).IsAligned channels received ∧
      ∀ x ∈ p.takes inbox, channels ∣ x.2 := by
  induction inbox generalizing p with
  | nil => exact ⟨hp, fun x hx => absurd hx List.not_mem_nil⟩
  | cons x inbox ih =>
    obtain ⟨hx, hframes⟩ := hinbox x List.mem_cons_self
    have hrest := fun y hy => hinbox y (List.mem_cons_of_mem x hy)
    obtain ⟨hfold, htakes⟩ := ih (hp.accept x.1 hx hframes) hrest
    refine ⟨hfold, fun y hy => ?_⟩
    rw [Playout.takes] at hy
    split at hy
    · rcases List.mem_cons.mp hy with rfl | hy
      · exact hp.dvd_excess hframes
      · exact htakes y hy
    · exact (ih hp hrest).2 y hy

/-- Taking what waits keeps a receiver aligned, and drops whole frames. -/
theorem drain (hp : p.IsAligned channels received) :
    p.drain.IsAligned channels received ∧ ∀ x ∈ p.drained, channels ∣ x.2 := by
  have hempty : ({ p with inbox := [] } : Playout).IsAligned channels received :=
    ⟨hp.prebuffer, hp.capacity, fun x hx => absurd hx List.not_mem_nil, hp.queue⟩
  exact hempty.takes hp.inbox

/-- Whole frames are played, in place. -/
theorem played (hp : p.IsAligned channels received) {n : Nat} (hn : channels ∣ n) :
    channels ∣ (p.played n).length ∧
      InPlace channels (received.map Packet.samples) (p.played n) := by
  unfold Playout.played
  split
  · refine ⟨?_, hp.queue.inPlace.take n⟩
    rw [List.length_take]
    exact Loopback.dvd_min hn hp.queue.dvd_length
  · exact ⟨Nat.dvd_zero channels, Backlog.nil.inPlace⟩

/-- Playing whole frames keeps a receiver aligned. -/
theorem play (hp : p.IsAligned channels received) {n : Nat} (hn : channels ∣ n) :
    (p.play n).2.IsAligned channels received := by
  unfold Playout.play
  split
  · exact ⟨hp.prebuffer, hp.capacity, hp.inbox, hp.queue.drop hn⟩
  · exact hp

/-- Forgetting a slot keeps a receiver aligned. -/
theorem forget (hp : p.IsAligned channels received) (slot : Slot) :
    (p.forget slot).IsAligned channels received := by
  obtain ⟨hprebuffer, hcapacity, hinbox, hqueue⟩ := hp.drain.1
  exact ⟨hprebuffer, hcapacity, hinbox, hqueue⟩

end IsAligned
end Playout

namespace Loopback

/-- Whatever bytes come in, only packets of whole frames are taken in. -/
theorem isAligned_collect {received : List Packet} {q : PeerState} {p : Playout}
    (hp : p.IsAligned q.channels received) (m : Machine) :
    (collect m q p).1.IsAligned q.channels (received ++ arriving m q) := by
  have hreceive : ∀ (ds : List (SocketId × Bytes)) (p : Playout),
      p.IsAligned q.channels (received ++ arriving m q) →
      (∀ d ∈ ds, ∀ x ∈ acceptable? q.channels d.2, x ∈ received ++ arriving m q) →
      (ds.foldl (receive q) p).IsAligned q.channels (received ++ arriving m q) := by
    intro ds
    induction ds with
    | nil => exact fun p hp _ => hp
    | cons d ds ih =>
      intro p hp hds
      refine ih _ ?_ fun e he => hds e (List.mem_cons_of_mem d he)
      unfold receive
      split
      · rename_i slot x _ hx
        exact hp.deliver slot (hds d List.mem_cons_self x hx) (dvd_of_acceptable? hx)
      · exact hp
  refine hreceive _ p (hp.mono fun x hx => List.mem_append_left _ hx) fun d hd x hx => ?_
  exact List.mem_append_right _ (List.mem_filterMap.mpr ⟨d, hd, hx⟩)

/-! ## Peers and runs -/

/-- The flow of a peer to which frames have been written, or at whose sockets packets have waited.
-/
def Flow.IsAligned (channels : Nat) (written : List Frame) (received : List Packet) : Flow → Prop
  | .sending _ _ p => p.IsAligned channels written
  | .receiving p => p.IsAligned channels received

/-- All peers move whole frames. -/
def Site.IsAligned (written : PeerHandle → List Frame) (received : PeerHandle → List Packet)
    (site : Site) : Prop :=
  ∀ h q, site.state.peers.get? h = some q →
    0 < q.channels ∧ q.flow.IsAligned q.channels (written h) (received h)

/-- A peer begins with nothing that could be out of place. -/
theorem IsOpened.isAligned {config : PeerConfig} {c : ContextHandle} {q : PeerState}
    (hq : IsOpened config c q) (written : List Frame) (received : List Packet) :
    q.flow.IsAligned q.channels written received := by
  obtain ⟨context, stream, hflow⟩ := hq.flow
  rw [hq.channels]
  cases config with
  | sender config =>
    obtain ⟨p, hsending, hbegun⟩ := exists_of_flow?_sender hflow
    rw [hsending]
    refine ⟨hbegun.size, ?_⟩
    rw [hbegun.pending]
    exact .nil
  | receiver config =>
    obtain ⟨p, hreceiving, hidle⟩ := exists_of_flow?_receiver hflow
    rw [hreceiving]
    refine ⟨hidle.prebuffer, hidle.capacity, fun x hx => ?_, ?_⟩
    · rw [hidle.inbox] at hx
      exact absurd hx List.not_mem_nil
    · rw [hidle.queue]
      exact .nil

/-- Every step of a flow moves whole frames. -/
theorem FlowStep.isAligned {site : Site} {h : PeerHandle} {q : PeerState} {e : Happening}
    {flow : Flow} {written : List Frame} {received : List Packet} (hstep : FlowStep site h q e flow)
    (hflow : q.flow.IsAligned q.channels written received) :
    flow.IsAligned q.channels (written ++ site.writtenBy h e)
      (received ++ arriving site.machine q) := by
  cases hstep with
  | still =>
    cases hq : q.flow with
    | sending fec stream p =>
      rw [hq] at hflow
      exact hflow.mono fun frame hframe => List.mem_append_left _ hframe
    | receiving p =>
      rw [hq] at hflow
      exact hflow.mono fun x hx => List.mem_append_left _ hx
  | written hq hevent hframe =>
    rw [hq] at hflow
    rw [hevent]
    exact (Packetizer.IsAligned.push hflow hframe).1
  | collected hq =>
    rw [hq] at hflow
    exact isAligned_collect hflow site.machine
  | filled hq hframe =>
    rw [hq] at hflow
    exact (isAligned_collect hflow site.machine).drain.1.play hframe
  | forgot hq =>
    rw [hq] at hflow
    exact (isAligned_collect hflow site.machine).forget _

namespace Site.IsAligned

variable {site : Site} {written : PeerHandle → List Frame} {received : PeerHandle → List Packet}

/-- Every event keeps all peers of a site aligned. -/
theorem after (hsite : site.IsAligned written received) (e : Happening) :
    (site.after e).IsAligned (fun h => written h ++ site.writtenBy h e)
      (fun h => received h ++ site.waiting h) := by
  intro h q' hq'
  cases site.continues_after e hq' with
  | opened c config hopened => exact ⟨hopened.channels_pos, hopened.isAligned _ _⟩
  | stepped q hq hchannels hstep =>
    obtain ⟨hpos, hflow⟩ := hsite h q hq
    have hwaiting : site.waiting h = arriving site.machine q := by
      rw [waiting, hq]
    dsimp only
    rw [hchannels, hwaiting]
    exact ⟨hpos, hstep.isAligned hflow⟩

/-- Frames stay whole in any run. -/
theorem afterAll (hsite : site.IsAligned written received) (events : List Happening) :
    (site.afterAll events).IsAligned (fun h => written h ++ Loopback.written h events site)
      (fun h => received h ++ Loopback.received h events site) := by
  induction events generalizing site written received with
  | nil =>
    simp only [Loopback.written, Loopback.received, List.append_nil]
    exact hsite
  | cons e events ih =>
    have hrest := ih (hsite.after e)
    simp only [List.append_assoc] at hrest
    exact hrest

end Site.IsAligned

/-! ## Channels -/

/-- A sender keeps the channels of what is written apart. -/
structure SendsInPlace (channels : Nat) (written : List Frame) (p : Packetizer) : Prop where
  size : channels ∣ p.size
  pending : channels ∣ p.pending.length
  /-- The pieces that the next frame completes. -/
  pieces : ∀ frame : Frame, channels ∣ frame.length → ∀ piece ∈ (p.push frame).1,
    channels ∣ piece.samples.length ∧ InPlace channels (written ++ [frame]) piece.samples

/-- A receiver keeps the channels of what is received apart, whatever comes in next. -/
structure PlaysInPlace (q : PeerState) (received : List Packet) (p : Playout) : Prop where
  prebuffer : q.channels ∣ p.prebuffer
  capacity : q.channels ∣ p.capacity
  queue : q.channels ∣ p.queue.length
  /-- What the next packets make fall out of the queue. -/
  trimmed : ∀ m, ∀ x ∈ (collect m q p).1.drained, q.channels ∣ x.2
  /-- What the next frame takes out of the queue. -/
  played : ∀ m n, q.channels ∣ n →
    q.channels ∣ ((collect m q p).1.drain.played n).length ∧
      InPlace q.channels ((received ++ arriving m q).map Packet.samples)
        ((collect m q p).1.drain.played n)

/-- An aligned packetizer sends in place. -/
theorem sendsInPlace {channels : Nat} {written : List Frame} {p : Packetizer}
    (hp : p.IsAligned channels written) : SendsInPlace channels written p :=
  ⟨hp.size, hp.pending.dvd_length, fun _ hframe => (hp.push hframe).2⟩

/-- An aligned receiver plays in place. -/
theorem playsInPlace {q : PeerState} {received : List Packet} {p : Playout}
    (hp : p.IsAligned q.channels received) : PlaysInPlace q received p where
  prebuffer := hp.prebuffer
  capacity := hp.capacity
  queue := hp.queue.dvd_length
  trimmed m := (isAligned_collect hp m).drain.2
  played m _ hn := (isAligned_collect hp m).drain.1.played hn

/-- In every run every peer has a channel, and all that it keeps, takes and gives up are whole
frames, so that a sample is only ever sent or played in the channel in which it was written or
received: the samples of a frame that is read are samples of received packets, each in its channel,
and silence. -/
theorem samples_in_place (machine : Machine) (events : List Happening) :
    let start : Site := { machine }
    let site := start.afterAll events
    ∀ h q, site.state.peers.get? h = some q →
      0 < q.channels ∧
      (∀ fec stream p, q.flow = .sending fec stream p →
        SendsInPlace q.channels (written h events start) p) ∧
      (∀ p, q.flow = .receiving p → PlaysInPlace q (received h events start) p) ∧
      ∀ n frame, (engine (.read h n) site).1 = .ok frame →
        ∃ block : Frame, q.channels ∣ block.length ∧
          InPlace q.channels
            ((received h (events ++ [.request (.read h n)]) start).map Packet.samples) block ∧
          frame = block ++ List.replicate (n - block.length) silence := by
  intro start site h q hq
  have hstart : start.IsAligned (fun _ => []) (fun _ => []) := fun h q hq => absurd hq nofun
  obtain ⟨hpos, hflow⟩ := hstart.afterAll events h q hq
  refine ⟨hpos, fun fec stream p hsending => ?_, fun p hreceiving => ?_, fun n frame hread => ?_⟩
  · rw [hsending] at hflow
    exact sendsInPlace hflow
  · rw [hreceiving] at hflow
    exact playsInPlace hflow
  · -- What is read is what plays after the packets that wait have been taken.
    rcases site.read_cases h n with
      ⟨code, hrefused⟩ | ⟨q', p, machine', pacer, hq', hreceiving, hframe, hok⟩
    · exact absurd (hread.symm.trans (congrArg Prod.fst hrefused)) nofun
    · obtain rfl : q = q' := Option.some.inj (hq.symm.trans hq')
      obtain rfl : frame = _ := Except.ok.inj (hread.symm.trans (congrArg Prod.fst hok))
      have hwaiting : site.waiting h = arriving site.machine q := by
        rw [Site.waiting, hq]
      rw [hreceiving] at hflow
      obtain ⟨hblock, hplace⟩ :=
        (isAligned_collect hflow site.machine).drain.1.played (Nat.dvd_of_mod_eq_zero hframe)
      refine ⟨_, hblock, ?_, (Playout.play_eq _ n).1⟩
      rw [received_append, show (start.afterAll events).waiting h = _ from hwaiting]
      exact hplace

/-- A run in which bytes that are no packet, a packet with half a frame, and a packet with two
frames come in at the socket of a receiver of two channels. -/
def strayBytes : List Happening := [
  .request (.contextOpen {}),
  .request (.peerOpen ⟨1⟩ (.receiver
    { frameEncoding := .stereo 1000, targetLatency := .ofMillis 1 })),
  .request (.bind ⟨2⟩ ⟨0⟩ .audioSource ⟨some .rtp, "127.0.0.1", 0, ""⟩),
  .machine fun m => { m with network := { m.network with waiting := [
    (⟨0⟩, [1, 2, 3]), (⟨0⟩, Packet.encode ⟨.source, 7, 0, [9, 9, 9]⟩),
    (⟨0⟩, Packet.encode ⟨.repair, 7, 1, [1, 2, 3, 4]⟩)] } }]

/-- Two frames are played in place, and the third is silent. -/
theorem samples_in_place_strayBytes :
    let machine : Machine := { host := .selfContained, random := fun _ => 0 }
    let site := ({ machine } : Site).afterAll strayBytes
    (engine (.read ⟨2⟩ 6) site).1 = .ok [1, 2, 3, 4, 0, 0] ∧
      ∃ q, site.state.peers.get? ⟨2⟩ = some q ∧
        ∃ block : Frame, q.channels ∣ block.length ∧
          InPlace q.channels ((received ⟨2⟩ (strayBytes ++ [.request (.read ⟨2⟩ 6)]) { machine }).map
            Packet.samples) block ∧
          [1, 2, 3, 4, 0, 0] = block ++ List.replicate (6 - block.length) silence := by
  intro machine site
  have hplaces := samples_in_place machine strayBytes
  have hread : (engine (.read ⟨2⟩ 6) site).1 = .ok [1, 2, 3, 4, 0, 0] := by decide +kernel
  have hopen : (site.state.peers.get? ⟨2⟩).isSome = true := by decide +kernel
  obtain ⟨q, hq⟩ := Option.isSome_iff_exists.mp hopen
  have hplace := (hplaces ⟨2⟩ q hq).2.2.2
  exact ⟨hread, q, hq, hplace 6 _ hread⟩

end Loopback
end AudioLink
