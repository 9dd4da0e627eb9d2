import AudioLink.Proofs.Loopback.Playback

/-
One frame or two.

Two frames that are read one after the other hold what one frame of their lengths together would hold,
and leave the receiver as that one would, if no packet comes between them. Three things could come in
the way, and none does: playback starts with the first frame of the two if it starts at all, because
reading adds nothing to the queue; what the first frame leaves of the queue is what the second one
finds; and the inbox is emptied before the first and has stayed empty before the second.
-/
set_option autoImplicit false

namespace AudioLink

/-- A frame that is filled up with silence may be cut anywhere. -/
theorem padded_add (queue : Frame) (a b : Nat) :
    queue.take (a + b) ++ List.replicate (a + b - (queue.take (a + b)).length) silence =
      (queue.take a ++ List.replicate (a - (queue.take a).length) silence) ++
        ((queue.drop a).take b ++
          List.replicate (b - ((queue.drop a).take b).length) silence) := by
  rcases Nat.le_total a queue.length with hle | hle
  · -- The first part is full, so that all the silence is in the second.
    have hfirst : a - (queue.take a).length = 0 := by
      rw [List.length_take]
      omega
    have hsilence : a + b - (queue.take (a + b)).length = b - ((queue.drop a).take b).length := by
      rw [List.length_take, List.length_take, List.length_drop]
      omega
    rw [hfirst, List.replicate_zero, List.append_nil, hsilence, List.take_add, List.append_assoc]
  · -- Nothing is left for the second part.
    have hsilence : a + b - queue.length = a - queue.length + b := by omega
    rw [List.take_of_length_le (Nat.le_trans hle (Nat.le_add_right a b)),
      List.take_of_length_le hle, List.drop_of_length_le hle, List.take_nil, List.nil_append,
      List.length_nil, Nat.sub_zero, hsilence, ← List.replicate_append_replicate,
      List.append_assoc]

namespace Playout

variable (p : Playout)

theorem play_of_isReady (hready : p.isReady = true) (n : Nat) :
    p.play n = (p.queue.take n ++ List.replicate (n - (p.queue.take n).length) silence,
      { p with queue := p.queue.drop n, playing := true }) := by
  rw [play, if_pos hready]

theorem play_of_not_isReady (hready : p.isReady = false) (n : Nat) :
    p.play n = (List.replicate n silence, p) := by
  rw [play, if_neg (Bool.eq_false_iff.mp hready)]

/-- Two frames are played like one. -/
theorem play_add (a b : Nat) :
    p.play (a + b) = ((p.play a).1 ++ ((p.play a).2.play b).1, ((p.play a).2.play b).2) := by
  cases hready : p.isReady with
  | false =>
    rw [p.play_of_not_isReady hready, p.play_of_not_isReady hready,
      p.play_of_not_isReady hready, List.replicate_append_replicate]
  | true =>
    have hplaying : ({ p with queue := p.queue.drop a, playing := true } : Playout).isReady = true :=
      rfl
    rw [p.play_of_isReady hready, p.play_of_isReady hready, play_of_isReady _ hplaying, padded_add,
      List.drop_drop]

/-- Two frames are read like one. -/
theorem fill_add (a b : Nat) :
    p.fill (a + b) = ((p.fill a).1 ++ ((p.fill a).2.fill b).1, ((p.fill a).2.fill b).2) := by
  have hempty : (p.fill a).2.drain = (p.fill a).2 := drain_of_inbox_eq_nil (p.inbox_fill a)
  have hsecond : (p.fill a).2.fill b = (p.fill a).2.play b := by rw [fill, hempty]
  rw [hsecond]
  exact p.drain.play_add a b

end Playout

namespace Loopback

/-- A receiver reads every frame that its channels divide. -/
theorem Site.read_of_dvd {site : Site} {h : PeerHandle} {q : PeerState} {p : Playout} {n : Nat}
    (hq : site.state.peers.get? h = some q) (hflow : q.flow = .receiving p)
    (hn : q.channels ∣ n) :
    ∃ machine pacer, site.read h n = (.ok ((p.afterAll (site.arrivals h)).fill n).1,
      { site with machine }.setPeer h
        { q with pacer, flow := .receiving ((p.afterAll (site.arrivals h)).fill n).2 }) := by
  have hframe : n % q.channels = 0 := Nat.mod_eq_zero_of_dvd hn
  refine ⟨(collect (pace site.machine q.pacer n).2 q p).2, (pace site.machine q.pacer n).1, ?_⟩
  rw [afterAll_arrivals hq, ← collect_eq (network_pace site.machine q.pacer n), read]
  simp only [hq, hflow, hframe, ne_eq, not_true_eq_false, if_false]

/-- In whatever state a receiver is, let a frame be read and then another one, both of whole channels,
and let the machine do in between what it likes, as long as no packet waits for the receiver when the
second frame is read. The two frames in a row are the one that would have been read in their place, and
everything is as it would be after that one: the queue, whether playback has started, the positions of
the slots, and all else but the clock of the receiver. -/
theorem read_add (site : Site) (h : PeerHandle) (q : PeerState) (p : Playout) (a b : Nat)
    (between : Machine → Machine) (hq : site.state.peers.get? h = some q)
    (hflow : q.flow = .receiving p) (ha : q.channels ∣ a) (hb : q.channels ∣ b)
    (hquiet : ((site.after (.request (.read h a))).after (.machine between)).arrivals h = []) :
    let first := engine (.read h a) site
    let second := engine (.read h b) (first.2.after (.machine between))
    let whole := engine (.read h (a + b)) site
    ∃ frame frame' p' pacer pacer',
      first.1 = .ok frame ∧ second.1 = .ok frame' ∧ whole.1 = .ok (frame ++ frame') ∧
      second.2.state = (site.setPeer h { q with pacer, flow := .receiving p' }).state ∧
      whole.2.state =
        (site.setPeer h { q with pacer := pacer', flow := .receiving p' }).state := by
  intro first second whole
  obtain ⟨machine₁, pacer₁, hfirst⟩ := Site.read_of_dvd hq hflow ha
  obtain ⟨machine', pacer', hwhole⟩ := Site.read_of_dvd hq hflow (Nat.dvd_add ha hb)
  generalize p.afterAll (site.arrivals h) = arrived at hfirst hwhole
  have hfirst : first = _ := hfirst
  -- The second frame is read by the receiver that the first one has left.
  let q₁ : PeerState := { q with pacer := pacer₁, flow := .receiving (arrived.fill a).2 }
  have hstate : (first.2.after (.machine between)).state = (site.setPeer h q₁).state := by
    rw [hfirst]
    rfl
  have hq₁ : (first.2.after (.machine between)).state.peers.get? h = some q₁ := by
    rw [hstate]
    exact Table.get?_insert_self _ _ _
  obtain ⟨machine, pacer, hsecond⟩ := Site.read_of_dvd hq₁ rfl hb
  have hnone : (arrived.fill a).2.afterAll ((first.2.after (.machine between)).arrivals h) =
      (arrived.fill a).2 := congrArg (Playout.afterAll _) hquiet
  rw [hnone] at hsecond
  refine ⟨(arrived.fill a).1, ((arrived.fill a).2.fill b).1, ((arrived.fill a).2.fill b).2, pacer,
    pacer', ?_, ?_, ?_, ?_, ?_⟩
  · rw [hfirst]
  · exact congrArg Prod.fst hsecond
  · refine (congrArg Prod.fst hwhole).trans ?_
    rw [Playout.fill_add]
  · refine (congrArg (fun result => result.2.state) hsecond).trans ?_
    simp only [Site.setPeer, hstate, Table.insert_insert, q₁]
  · refine (congrArg (fun result => result.2.state) hwhole).trans ?_
    rw [Playout.fill_add]
    rfl

/-- A receiver that waits for three samples and gets four. -/
def fourSamples : List Happening := [
  .request (.contextOpen {}),
  .request (.peerOpen ⟨1⟩ (.receiver {
    frameEncoding := .new 1000 .mono, targetLatency := .ofMillis 3 })),
  .request (.bind ⟨2⟩ ⟨0⟩ .audioSource ⟨some .rtp, "127.0.0.1", 0, ""⟩),
  .machine fun m => { m with network := { m.network with waiting := [
    (⟨0⟩, Packet.encode ⟨.source, 7, 0, [1, 2, 3, 4]⟩)] } }]

/-- Playback starts with the first of two frames, and the queue runs empty in the second. -/
theorem read_add_fourSamples :
    let machine : Machine := { host := .selfContained, random := fun _ => 0 }
    let site := ({ machine } : Site).afterAll fourSamples
    let first := engine (.read ⟨2⟩ 1) site
    let second := engine (.read ⟨2⟩ 5) (first.2.after (.machine fun m => m.sleep 5))
    first.1 = .ok [1] ∧ second.1 = .ok [2, 3, 4, 0, 0] ∧
      (engine (.read ⟨2⟩ 6) site).1 = .ok [1, 2, 3, 4, 0, 0] := by
  intro machine site first second
  have hpeer : (site.state.peers.get? ⟨2⟩).map (fun q =>
      (q.channels, q.flow.casesOn (fun _ _ _ => false) fun _ => true)) = some (1, true) := by
    decide +kernel
  obtain ⟨q, hq, hpeer⟩ := Option.map_eq_some_iff.mp hpeer
  obtain ⟨hchannels, hreceives⟩ := Prod.mk.inj hpeer
  cases hflow : q.flow with
  | sending fec stream p =>
    rw [hflow] at hreceives
    exact absurd hreceives Bool.false_ne_true
  | receiving p =>
    have hquiet : ((site.after (.request (.read ⟨2⟩ 1))).after
        (.machine fun m => m.sleep 5)).arrivals ⟨2⟩ = [] :=
      List.eq_nil_of_length_eq_zero (by decide +kernel)
    have hfirst : first.1 = .ok [1] := by decide +kernel
    have hsecond : second.1 = .ok [2, 3, 4, 0, 0] := by decide +kernel
    obtain ⟨frame, frame', -, -, -, hone, hother, hwhole, -⟩ := read_add site ⟨2⟩ q p 1 5
      (fun m => m.sleep 5) hq hflow (hchannels ▸ Nat.one_dvd 1) (hchannels ▸ Nat.one_dvd 5) hquiet
    obtain rfl := Except.ok.inj (hfirst.symm.trans hone)
    obtain rfl := Except.ok.inj (hsecond.symm.trans hother)
    exact ⟨hfirst, hsecond, hwhole⟩

end Loopback
end AudioLink
