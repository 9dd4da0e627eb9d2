import AudioLink.Loopback.Engine
import AudioLink.Proofs.Checks

/-
Sizes that are fixed when a peer is opened are whole frames.

A span of time is turned into whole frames and only then into samples, and what fits into a datagram
is rounded down to whole frames, so every size is a multiple of the channel count, however it comes
about. A peer that is opened has a channel, and begins with nothing pending, queued or taken.
-/
set_option autoImplicit false

namespace AudioLink.Loopback

/-! ## Spans of time -/

theorem dvd_of_samplesFor? {rate : UInt32} {channels n : Nat} {d : Duration}
    (h : samplesFor? rate channels d = some n) : channels ∣ n := by
  rw [samplesFor?] at h
  split at h
  · rw [← Option.some.inj h]
    exact Nat.dvd_mul_left channels _
  · exact absurd h nofun

/-- A span of time holds at least one frame. -/
theorem pos_of_samplesFor? {rate : UInt32} {channels n : Nat} {d : Duration}
    (hchannels : 0 < channels) (h : samplesFor? rate channels d = some n) : 0 < n := by
  rw [samplesFor?] at h
  split at h
  · rw [← Option.some.inj h]
    exact Nat.mul_pos (Nat.le_max_right _ 1) hchannels
  · exact absurd h nofun

theorem dvd_min {k m n : Nat} (hm : k ∣ m) (hn : k ∣ n) : k ∣ min m n := by
  rcases Nat.le_total m n with hle | hle
  · rwa [Nat.min_eq_left hle]
  · rwa [Nat.min_eq_right hle]

/-! ## Senders -/

/-- A packet of a sender holds whole frames. -/
theorem dvd_of_packetSamples? {c : ContextState} {config : SenderConfig} {size : Nat}
    (h : packetSamples? c config = some size) : config.frameEncoding.channelCount ∣ size := by
  obtain ⟨packets, -, h⟩ := Option.bind_eq_some_iff.mp h
  dsimp only at h
  split at h
  · obtain ⟨wanted, hwanted, h⟩ := Option.bind_eq_some_iff.mp h
    rw [← Option.some.inj h]
    exact dvd_min (dvd_of_samplesFor? hwanted) (Nat.dvd_mul_left _ _)
  · exact absurd h nofun

/-- A stream that has just been begun: packets of whole frames, nothing pending, the first number.
-/
structure IsBegun (channels : Nat) (packetizer : Packetizer) : Prop where
  size : channels ∣ packetizer.size
  pending : packetizer.pending = []
  seq : packetizer.seq = 0

theorem exists_of_flow?_sender {c : ContextState} {stream : UInt32} {config : SenderConfig}
    {flow : Flow} (h : flow? c stream (.sender config) = some flow) :
    ∃ packetizer, flow = .sending config.fecEncoding stream packetizer ∧
      IsBegun config.frameEncoding.channelCount packetizer := by
  obtain ⟨size, hsize, h⟩ := Option.bind_eq_some_iff.mp h
  obtain ⟨packetizer, hpacketizer, h⟩ := Option.bind_eq_some_iff.mp h
  rw [packetizer?] at hpacketizer
  split at hpacketizer
  · obtain rfl := Option.some.inj hpacketizer
    exact ⟨_, (Option.some.inj h).symm, dvd_of_packetSamples? hsize, rfl, rfl⟩
  · exact absurd hpacketizer nofun

/-! ## Receivers -/

/-- A receiving side that has just been begun: playback starts and ends at whole frames, and nothing
has been received. -/
structure IsIdle (channels : Nat) (playout : Playout) : Prop where
  prebuffer : channels ∣ playout.prebuffer
  capacity : channels ∣ playout.capacity
  inbox : playout.inbox = []
  queue : playout.queue = []
  positions : playout.positions = .empty

theorem isIdle_of_playout? {config : ReceiverConfig} {playout : Playout}
    (h : playout? config = some playout) :
    IsIdle config.frameEncoding.channelCount playout := by
  rw [playout?] at h
  split at h
  · exact absurd h nofun
  · obtain ⟨prebuffer, hprebuffer, h⟩ := Option.bind_eq_some_iff.mp h
    obtain ⟨reserve, hreserve, h⟩ := Option.bind_eq_some_iff.mp h
    split at h
    · rw [← Option.some.inj h]
      have hdvd := dvd_of_samplesFor? hprebuffer
      exact ⟨hdvd, Nat.dvd_add (dvd_of_samplesFor? hreserve) hdvd, rfl, rfl, rfl⟩
    · exact absurd h nofun

/-- Playback waits for samples, and there is room for more than it waits for. -/
theorem sizes_of_playout? {config : ReceiverConfig} {playout : Playout}
    (hchannels : 0 < config.frameEncoding.channelCount) (h : playout? config = some playout) :
    0 < playout.prebuffer ∧ playout.prebuffer < playout.capacity ∧ playout.playing = false := by
  rw [playout?] at h
  split at h
  · exact absurd h nofun
  · obtain ⟨prebuffer, hprebuffer, h⟩ := Option.bind_eq_some_iff.mp h
    obtain ⟨reserve, hreserve, h⟩ := Option.bind_eq_some_iff.mp h
    split at h
    · have hpos := pos_of_samplesFor? hchannels hprebuffer
      have hreserved := pos_of_samplesFor? hchannels hreserve
      rw [← Option.some.inj h]
      refine ⟨hpos, ?_, rfl⟩
      dsimp only
      omega
    · exact absurd h nofun

theorem exists_of_flow?_receiver {c : ContextState} {stream : UInt32} {config : ReceiverConfig}
    {flow : Flow} (h : flow? c stream (.receiver config) = some flow) :
    ∃ playout, flow = .receiving playout ∧
      IsIdle config.frameEncoding.channelCount playout := by
  obtain ⟨playout, hplayout, rfl⟩ := Option.map_eq_some_iff.mp h
  exact ⟨playout, rfl, isIdle_of_playout? hplayout⟩

/-! ## Peers -/

/-- A peer as it is opened. -/
structure IsOpened (config : PeerConfig) (c : ContextHandle) (q : PeerState) : Prop where
  context : q.context = c
  channels : q.channels = config.frameEncoding.channelCount
  channels_pos : 0 < q.channels
  slots : q.slots = .empty
  flow : ∃ context stream, flow? context stream config = some q.flow

/-- What opening a peer does: it is refused and no peer is opened, or the next handle is given to
it. -/
theorem Site.openPeer_spec (site : Site) (c : ContextHandle) (config : PeerConfig) :
    (∃ code, (site.openPeer c config).1 = .error code ∧
        (site.openPeer c config).2 = site) ∨
      ∃ k q, site.state.contexts.get? c = some k ∧ IsOpened config c q ∧
        (site.openPeer c config).1 = .ok ⟨site.state.nextId⟩ ∧
        (site.openPeer c config).2.state = {
          nextId := site.state.nextId + 1
          contexts := site.state.contexts.insert c { k with peers := k.peers + 1 }
          peers := site.state.peers.insert ⟨site.state.nextId⟩ q } := by
  rw [openPeer]
  cases hk : site.state.contexts.get? c with
  | none => exact .inl ⟨_, rfl, rfl⟩
  | some k =>
    dsimp only
    by_cases hvalid : config.frameEncoding.isValid = false
    · rw [if_pos hvalid]
      exact .inl ⟨_, rfl, rfl⟩
    · rw [if_neg hvalid]
      cases hflow : flow? k (site.machine.draw).1 config with
      | none => exact .inl ⟨_, rfl, rfl⟩
      | some flow =>
        have hpos : 0 < config.frameEncoding.channelCount :=
          MediaEncoding.channelCount_pos (Bool.not_eq_false _ ▸ hvalid)
        exact .inr ⟨k, _, rfl, ⟨rfl, rfl, hpos, rfl, k, _, hflow⟩, rfl, rfl⟩

end AudioLink.Loopback
