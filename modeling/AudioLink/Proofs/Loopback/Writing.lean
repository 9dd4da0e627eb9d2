import AudioLink.Proofs.Loopback.Cutting
import AudioLink.Proofs.Loopback.Playback

/-
What a sender makes of what is written to it.

Only one thing ever happens to the stream of a sender: a frame is written to it, and is cut into
pieces. So in every run, whatever is asked of the engine and whatever the machine does, the stream of
a sender is the one that it was opened with, after the frames that were written to it since. From
there on nothing but the cutting counts: the pieces and what stays pending are all the samples in
their order, and how these were divided into frames leaves no trace.
-/
set_option autoImplicit false

namespace AudioLink

/-! ## Streams from their beginning -/

namespace Packetizer

/-- The stream as it was begun: with packets of the same size, and nothing pushed yet. -/
def begun (p : Packetizer) : Packetizer := { p with pending := [], seq := 0 }

variable (p : Packetizer)

/-- Frames that come later are pushed into what is left then. -/
theorem pushAll_append (frames more : List Frame) :
    p.pushAll (frames ++ more) =
      ((p.pushAll frames).1 ++ ((p.pushAll frames).2.pushAll more).1,
        ((p.pushAll frames).2.pushAll more).2) := by
  induction frames generalizing p with
  | nil => rfl
  | cons frame frames ih =>
    rw [List.cons_append, pushAll_cons, ih, pushAll_cons, List.append_assoc]

/-- A packetizer has begun where it has begun, whatever is pushed. -/
theorem begun_pushAll (frames : List Frame) : (p.pushAll frames).2.begun = p.begun := by
  induction frames generalizing p with
  | nil => rfl
  | cons frame frames ih =>
    rw [pushAll_cons, ih]
    rfl

theorem length_pending_begun : p.begun.pending.length < p.begun.size := p.size_pos

/-- Frames have been cut into packets without loss: these pieces, and what is pending. -/
structure CutsWhole (p : Packetizer) (frames : List Frame) (pieces : List Piece) : Prop where
  /-- A packet has a sample. -/
  size : 0 < p.size
  /-- All samples are there, in their order. -/
  whole : Piece.join pieces ++ p.pending = frames.flatten
  length : ∀ piece ∈ pieces, piece.samples.length = p.size
  pending : p.pending.length < p.size
  /-- The numbers are in a row from zero on, and go round in 32 bits. -/
  numbers : ∀ i piece, pieces[i]? = some piece → piece.seq = UInt32.ofNat i
  next : p.seq = UInt32.ofNat pieces.length

theorem length_number (seq : UInt32) (runs : List Frame) :
    (number seq runs).length = runs.length := by
  rw [← List.length_map (f := Piece.samples), map_samples_number]

/-- A stream that is pushed from its beginning is cut whole. -/
theorem cutsWhole_begun (frames : List Frame) :
    CutsWhole (p.begun.pushAll frames).2 frames (p.begun.pushAll frames).1 := by
  rw [p.begun.pushAll_eq_push_flatten frames p.length_pending_begun]
  refine ⟨p.size_pos, p.begun.join_push _, fun piece => p.begun.length_of_mem_push,
    p.begun.length_pending_push _, fun i piece hpiece => ?_, ?_⟩
  · rw [push_eq, getElem?_number] at hpiece
    obtain ⟨run, -, rfl⟩ := Option.map_eq_some_iff.mp hpiece
    exact UInt32.zero_add _
  · rw [push_eq, length_number]
    exact UInt32.zero_add _

/-- Frames with the same samples are cut alike. -/
theorem pushAll_begun_congr {frames other : List Frame} (h : other.flatten = frames.flatten) :
    p.begun.pushAll other = p.begun.pushAll frames := by
  rw [p.begun.pushAll_eq_push_flatten other p.length_pending_begun, h,
    p.begun.pushAll_eq_push_flatten frames p.length_pending_begun]

end Packetizer

namespace Loopback

/-- A packetizer that has just been opened has not gone on from its beginning. -/
theorem IsOpened.begun {config : PeerConfig} {c : ContextHandle} {q : PeerState}
    {fec : FecEncoding} {stream : UInt32} {p : Packetizer} (hq : IsOpened config c q)
    (hflow : q.flow = .sending fec stream p) : p.begun = p := by
  obtain ⟨context, number, hflow?⟩ := hq.flow
  cases config with
  | receiver config =>
    obtain ⟨playout, hreceiving, -⟩ := exists_of_flow?_receiver hflow?
    rw [hreceiving] at hflow
    exact absurd hflow nofun
  | sender config =>
    obtain ⟨packetizer, hsending, -, hpending, hseq⟩ := exists_of_flow?_sender hflow?
    obtain ⟨-, -, rfl⟩ := Flow.sending.inj (hflow.symm.trans hsending)
    rw [Packetizer.begun, ← hpending, ← hseq]

/-- A packet is never empty, whatever is configured; no sender is refused because it would be. -/
theorem pos_of_packetSamples? {c : ContextState} {config : SenderConfig} {size : Nat}
    (h : packetSamples? c config = some size) : 0 < size := by
  obtain ⟨packets, -, h⟩ := Option.bind_eq_some_iff.mp h
  dsimp only at h
  split at h
  · rename_i hcarries
    obtain ⟨wanted, hwanted, h⟩ := Option.bind_eq_some_iff.mp h
    -- Without channels there would be no room for a frame in a packet.
    have hchannels : 0 < config.frameEncoding.channelCount := by
      refine Nat.pos_of_ne_zero fun hzero => hcarries.2 ?_
      rw [hzero, Nat.mul_zero]
    rw [← Option.some.inj h]
    exact Nat.lt_min.mpr ⟨pos_of_samplesFor? hchannels hwanted, Nat.pos_of_ne_zero hcarries.2⟩
  · exact absurd h nofun

/-! ## What is written and cut -/

/-- There is a sender with this stream under a handle. -/
def IsSending (peers : Table PeerHandle PeerState) (h : PeerHandle) (fec : FecEncoding)
    (stream : UInt32) (p : Packetizer) : Prop :=
  ∃ q, peers.get? h = some q ∧ q.flow = .sending fec stream p

/-- The pieces that a sender cuts, if a frame is written to it. -/
def Site.cutBy (site : Site) (h : PeerHandle) (e : Happening) : List Piece :=
  match (site.state.peers.get? h).map PeerState.flow with
  | some (.sending _ _ p) => (p.pushAll (site.writtenBy h e)).1
  | _ => []

/-- What has been noted since a peer was last opened under a handle, in a run that goes on after
`past`. -/
def sinceOpened {α : Type} (h : PeerHandle) (note : Site → Happening → List α) :
    List Happening → Site → List α → List α
  | [], _, past => past
  | e :: events, site, past =>
    sinceOpened h note events (site.after e) (if site.opens h e then [] else past ++ note site e)

namespace IsSending

variable {peers : Table PeerHandle PeerState} {h h₁ : PeerHandle} {fec : FecEncoding}
  {stream : UInt32} {p : Packetizer} {q₁ : PeerState}

/-- A peer that is put in the place of what it was has the stream that it had. -/
theorem of_insert (q₁' : PeerState) (hq₁ : peers.get? h₁ = some q₁)
    (hflow : q₁'.flow = .sending fec stream p → q₁.flow = .sending fec stream p)
    (hsending : IsSending (peers.insert h₁ q₁') h fec stream p) : IsSending peers h fec stream p := by
  obtain ⟨q, hq, hstream⟩ := hsending
  rcases Table.get?_insert_cases hq with ⟨rfl, rfl⟩ | ⟨-, hq⟩
  · exact ⟨q₁, hq₁, hflow hstream⟩
  · exact ⟨q, hq, hstream⟩

end IsSending

/-- Collecting is for receivers only. -/
theorem sending_of_collectFlow {m : Machine} {q : PeerState} {fec : FecEncoding} {stream : UInt32}
    {p : Packetizer} (h : (collectFlow m q).1 = .sending fec stream p) :
    q.flow = .sending fec stream p := by
  unfold collectFlow at h
  cases hflow : q.flow with
  | sending fec' stream' p' =>
    rw [hflow] at h
    exact h
  | receiving playout =>
    rw [hflow] at h
    exact absurd h nofun

/-- What sends after forgetting a slot has sent the same before. -/
theorem sending_of_forget {flow : Flow} {slot : Slot} {fec : FecEncoding} {stream : UInt32}
    {p : Packetizer} (h : flow.forget slot = .sending fec stream p) :
    flow = .sending fec stream p := by
  cases flow with
  | sending fec' stream' p' => exact h
  | receiving playout => exact absurd h nofun

/-! ## One happening -/

namespace Site

variable {site : Site} {h h₁ : PeerHandle} {fec : FecEncoding} {stream : UInt32} {p : Packetizer}

/-- What is done on a slot leaves every stream as it is. -/
theorem SetsSlot.sending {α : Type} {slot : Slot} {result : Answer α × Site}
    (hsets : SetsSlot site h₁ slot result)
    (hsending : IsSending result.2.state.peers h fec stream p) :
    IsSending site.state.peers h fec stream p := by
  cases hsets with
  | refused code => exact hsending
  | set hq answer machine s => exact .of_insert (PeerState.setSlot _ slot s) hq id hsending

/-- Reading leaves what sends as it is. -/
theorem sending_read {n : Nat}
    (hsending : IsSending (site.read h₁ n).2.state.peers h fec stream p) :
    IsSending site.state.peers h fec stream p := by
  rcases site.read_cases h₁ n with ⟨code, hread⟩ | ⟨q, playout, machine, pacer, hq, -, -, hread⟩
  · rw [hread] at hsending
    exact hsending
  · rw [hread] at hsending
    refine .of_insert { q with
      pacer, flow := .receiving ((collect site.machine q playout).1.fill n).2 } hq ?_ hsending
    exact fun hflow => absurd hflow nofun

/-- Unlinking leaves what sends as it is. -/
theorem sending_unlink {slot : Slot}
    (hsending : IsSending (site.unlink h₁ slot).2.state.peers h fec stream p) :
    IsSending site.state.peers h fec stream p := by
  rcases site.unlink_cases h₁ slot with ⟨code, hunlink⟩ | ⟨q, machine, hq, hunlink⟩
  · rw [hunlink] at hsending
    exact hsending
  · rw [hunlink] at hsending
    refine .of_insert { q with
      slots := q.slots.erase slot, flow := (collectFlow site.machine q).1.forget slot } hq ?_ hsending
    exact fun hflow => sending_of_collectFlow (sending_of_forget hflow)

/-- Taking what waits leaves what sends as it is. -/
theorem sending_settle (hsending : IsSending (site.settle h₁).state.peers h fec stream p) :
    IsSending site.state.peers h fec stream p := by
  rcases site.settle_cases h₁ with ⟨hsettle, -⟩ | ⟨q, machine, hq, hsettle⟩
  · rw [hsettle] at hsending
    exact hsending
  · rw [hsettle] at hsending
    exact .of_insert { q with flow := (collectFlow site.machine q).1 } hq sending_of_collectFlow
      hsending

/-- Closing a peer leaves the others that send as they are. -/
theorem sending_closePeer (hsending : IsSending (site.closePeer h₁).2.state.peers h fec stream p) :
    IsSending site.state.peers h fec stream p := by
  obtain ⟨q, hq, hflow⟩ := hsending
  exact ⟨q, site.get?_of_closePeer h₁ hq, hflow⟩

end Site

/-- What there is of a stream after something has happened: it is just begun, by a sender that was
opened, or it is what it was after what was written to it. -/
inductive Streams (site : Site) (h : PeerHandle) (e : Happening) (fec : FecEncoding)
    (stream : UInt32) (p' : Packetizer) : Prop
  | opened (hopens : site.opens h e = true) (hbegun : p'.begun = p')
  | went (p : Packetizer) (hopens : site.opens h e = false)
      (hsending : IsSending site.state.peers h fec stream p)
      (hp' : p' = (p.pushAll (site.writtenBy h e)).2)

/-- A sender that nothing is written to. -/
theorem Streams.of_still {site : Site} {h : PeerHandle} {e : Happening} {fec : FecEncoding}
    {stream : UInt32} {p : Packetizer} (hopens : site.opens h e = false)
    (hwritten : site.writtenBy h e = []) (hsending : IsSending site.state.peers h fec stream p) :
    Streams site h e fec stream p := by
  refine .went p hopens hsending ?_
  rw [hwritten]
  rfl

namespace Site

variable {site : Site} {h h₁ : PeerHandle} {fec : FecEncoding} {stream : UInt32} {p' : Packetizer}

/-- A sender that is opened begins a stream; the others go on with theirs. -/
theorem streams_openPeer {c : ContextHandle} {config : PeerConfig}
    (hsending : IsSending (site.openPeer c config).2.state.peers h fec stream p') :
    Streams site h (.request (.peerOpen c config)) fec stream p' := by
  obtain ⟨q', hq', hflow⟩ := hsending
  rcases get?_openPeer hq' with ⟨hopens, hopened⟩ | ⟨hopens, hq'⟩
  · exact .opened hopens (hopened.begun hflow)
  · exact .of_still hopens rfl ⟨q', hq', hflow⟩

/-- Writing a frame pushes it, if it counts as written. -/
theorem streams_write {frame : Frame}
    (hsending : IsSending (site.write h₁ frame).2.state.peers h fec stream p') :
    Streams site h (.request (.write h₁ frame)) fec stream p' := by
  rcases site.write_cases h₁ frame with
    ⟨code, hwrite⟩ | ⟨q, fec₁, stream₁, p, machine, pacer, hq, hflow, -, hwrite⟩
  · -- What is refused does not count as written.
    rw [hwrite] at hsending
    refine .of_still rfl (if_neg fun hself => ?_) hsending
    rw [hwrite] at hself
    exact absurd hself.2 nofun
  · obtain ⟨q', hq', hflow'⟩ := hsending
    rw [hwrite] at hq'
    rcases Table.get?_insert_cases hq' with ⟨rfl, rfl⟩ | ⟨hother, hq'⟩
    · obtain ⟨rfl, rfl, rfl⟩ := Flow.sending.inj hflow'
      have hwritten : site.writtenBy h (.request (.write h frame)) = [frame] :=
        if_pos ⟨rfl, congrArg Prod.fst hwrite⟩
      refine .went p rfl ⟨q, hq, hflow⟩ ?_
      rw [hwritten]
      rfl
    · exact .of_still rfl (if_neg fun hself => hother hself.1.symm) ⟨q', hq', hflow'⟩

/-- Whatever happens, a stream goes on with what is written to its sender, if it has not just been
begun. -/
theorem streams_after (e : Happening)
    (hsending : IsSending (site.after e).state.peers h fec stream p') :
    Streams site h e fec stream p' := by
  cases e with
  | machine change => exact .of_still rfl rfl hsending
  | settle h₁ => exact .of_still rfl rfl (sending_settle hsending)
  | request r =>
    cases r with
    | contextOpen config => exact .of_still rfl rfl (site.peers_openContext config ▸ hsending)
    | registerEncoding c id encoding =>
      exact .of_still rfl rfl (site.peers_registerEncoding c id encoding ▸ hsending)
    | contextClose c => exact .of_still rfl rfl (site.peers_closeContext c ▸ hsending)
    | peerOpen c config => exact streams_openPeer hsending
    | configure h₁ slot i config =>
      exact .of_still rfl rfl ((site.setsSlot_configure h₁ slot i config).sending hsending)
    | bind h₁ slot i endpoint =>
      exact .of_still rfl rfl ((site.setsSlot_bind h₁ slot i endpoint).sending hsending)
    | connect h₁ slot i endpoint =>
      exact .of_still rfl rfl ((site.setsSlot_connect h₁ slot i endpoint).sending hsending)
    | unlink h₁ slot => exact .of_still rfl rfl (sending_unlink hsending)
    | peerClose h₁ => exact .of_still rfl rfl (sending_closePeer hsending)
    | read h₁ n => exact .of_still rfl rfl (sending_read hsending)
    | write h₁ frame => exact streams_write hsending

/-! ## Runs -/

/-- Every stream is what its sender was opened with, after these frames; and these pieces were cut. -/
def HasCut (site : Site) (frames : PeerHandle → List Frame) (pieces : PeerHandle → List Piece) :
    Prop :=
  ∀ h fec stream p, IsSending site.state.peers h fec stream p →
    p.begun.pushAll (frames h) = (pieces h, p)

namespace HasCut

variable {site : Site} {frames : PeerHandle → List Frame} {pieces : PeerHandle → List Piece}

/-- There are no senders at first. -/
theorem start (machine : Machine) : ({ machine } : Site).HasCut (fun _ => []) fun _ => [] := by
  rintro h fec stream p ⟨q, hq, -⟩
  exact absurd hq nofun

/-- Every sender has cut what was written to it after an event, if it had before. -/
theorem after (hsite : site.HasCut frames pieces) (e : Happening) :
    (site.after e).HasCut
      (fun h => if site.opens h e then [] else frames h ++ site.writtenBy h e)
      fun h => if site.opens h e then [] else pieces h ++ site.cutBy h e := by
  intro h fec stream p' hsending'
  dsimp only
  cases site.streams_after e hsending' with
  | opened hopens hbegun =>
    -- What was noted of an earlier peer with this handle does not count any more.
    rw [if_pos hopens, if_pos hopens, hbegun]
    rfl
  | went p hopens hsending hp' =>
    have hcut : site.cutBy h e = (p.pushAll (site.writtenBy h e)).1 := by
      obtain ⟨q, hq, hflow⟩ := hsending
      rw [cutBy, hq, Option.map_some, hflow]
    have hopens : ¬ site.opens h e = true := Bool.eq_false_iff.mp hopens
    rw [if_neg hopens, if_neg hopens, hp', Packetizer.begun_pushAll, Packetizer.pushAll_append,
      hsite h fec stream p hsending, hcut]

/-- Every sender has cut what was written to it after a run, if it had before. -/
theorem afterAll (hsite : site.HasCut frames pieces) (events : List Happening) :
    (site.afterAll events).HasCut
      (fun h => sinceOpened h (fun site => site.writtenBy h) events site (frames h))
      fun h => sinceOpened h (fun site => site.cutBy h) events site (pieces h) := by
  induction events generalizing site frames pieces with
  | nil => exact hsite
  | cons e events ih => exact ih (hsite.after e)

end HasCut
end Site

/-- In every run, let `frames` be what has been written to a sender since it was opened, and `pieces`
what has been cut of it; and let any frames follow. The pieces and what is pending are all the
samples in their order, the pieces are of one size, which is not zero, less than that is pending, and
the pieces are numbered in a row from zero on. Frames of other lengths that have the same samples in
all would have been cut into the same pieces, with the same remainder. The size comes from the
configuration; it is never computed to be zero. -/
theorem cutsWhole_of_written (machine : Machine) (events : List Happening) (h : PeerHandle)
    (fec : FecEncoding) (stream : UInt32) (p : Packetizer)
    (hsending : IsSending (({ machine } : Site).afterAll events).state.peers h fec stream p) :
    let frames := sinceOpened h (fun site => site.writtenBy h) events { machine } []
    let pieces := sinceOpened h (fun site => site.cutBy h) events { machine } []
    (∀ more : List Frame,
      Packetizer.CutsWhole (p.pushAll more).2 (frames ++ more) (pieces ++ (p.pushAll more).1) ∧
      ∀ other : List Frame, other.flatten = (frames ++ more).flatten →
        p.begun.pushAll other = (pieces ++ (p.pushAll more).1, (p.pushAll more).2)) ∧
    ∀ context config size, packetSamples? context config = some size → 0 < size := by
  intro frames pieces
  refine ⟨fun more => ?_, fun _ _ _ => pos_of_packetSamples?⟩
  have hcut : p.begun.pushAll frames = (pieces, p) :=
    ((Site.HasCut.start machine).afterAll events) h fec stream p hsending
  have hall : p.begun.pushAll (frames ++ more) =
      (pieces ++ (p.pushAll more).1, (p.pushAll more).2) := by
    rw [Packetizer.pushAll_append, hcut]
  constructor
  · have hwhole := p.cutsWhole_begun (frames ++ more)
    rw [hall] at hwhole
    exact hwhole
  · intro other hother
    rw [p.pushAll_begun_congr hother, hall]

/-- Five samples are written to a sender of packets of two samples, in frames of three and two; one and
four would have come to the same. -/
theorem cutsWhole_of_written_five :
    let machine : Machine := { host := .selfContained, random := fun _ => 7 }
    let events : List Happening := [.request (.contextOpen {}),
      .request (.peerOpen ⟨1⟩ (.sender {
        frameEncoding := .new 2000 .mono, packetLength := .ofMillis 1 })),
      .request (.write ⟨2⟩ [1, 2, 3]), .settle ⟨2⟩, .request (.write ⟨2⟩ [4, 5])]
    ∃ fec stream p,
      IsSending (({ machine } : Site).afterAll events).state.peers ⟨2⟩ fec stream p ∧
        p.pending = [5] ∧
        p.begun.pushAll [[1], [2, 3, 4, 5]] = ([⟨0, [1, 2]⟩, ⟨1, [3, 4]⟩], p) := by
  intro machine events
  have hpending : ((({ machine } : Site).afterAll events).state.peers.get? ⟨2⟩).map (fun q =>
      q.flow.casesOn (fun _ _ p => some p.pending) fun _ => none) = some (some [5]) := by
    decide +kernel
  obtain ⟨q, hq, hpending⟩ := Option.map_eq_some_iff.mp hpending
  cases hflow : q.flow with
  | receiving playout =>
    rw [hflow] at hpending
    exact absurd hpending nofun
  | sending fec stream p =>
    rw [hflow] at hpending
    have hframes : (sinceOpened ⟨2⟩ (fun site => site.writtenBy ⟨2⟩) events { machine } []).flatten =
        [1, 2, 3, 4, 5] := by
      decide +kernel
    have hpieces : sinceOpened ⟨2⟩ (fun site => site.cutBy ⟨2⟩) events { machine } [] =
        [⟨0, [1, 2]⟩, ⟨1, [3, 4]⟩] := by
      decide +kernel
    obtain ⟨hcut, -⟩ := cutsWhole_of_written machine events ⟨2⟩ fec stream p ⟨q, hq, hflow⟩
    -- The same samples in two other frames.
    obtain ⟨-, hother⟩ := hcut []
    refine ⟨fec, stream, p, ⟨q, hq, hflow⟩, Option.some.inj hpending, ?_⟩
    rw [hother [[1], [2, 3, 4, 5]] (by rw [List.append_nil, hframes]; rfl), hpieces]
    rfl

end Loopback
end AudioLink
