import AudioLink.Proofs.Loopback.Writing

/-
Which peers can be opened, and with what sizes.

A configuration is usable if its encoding is, if the packets can carry the frames as they are, and if
the sizes that follow from it can be had; this is said here without any of the functions that compute
the sizes. A peer is opened exactly if its configuration is usable, and then its sizes are whole frames
and fit where they have to. Nothing on the way can be more than the words of a machine hold, or be
divided by zero, whatever is configured; `InRange` names each place where this could happen.
-/
set_option autoImplicit false

namespace AudioLink

/-! ## Encodings -/

namespace MediaEncoding

/-- An encoding has a rate, and as many tracks as its layout takes. -/
structure IsUsable (e : MediaEncoding) : Prop where
  rate : e.rate ≠ 0
  tracks : if e.channels = .multitrack then 1 ≤ e.tracks.toNat ∧ e.tracks.toNat ≤ 1024
    else e.tracks = 0

/-- The check of an encoding accepts what is usable. -/
theorem isValid_iff (e : MediaEncoding) : e.isValid = true ↔ e.IsUsable := by
  have hmost : maxTracks.toNat = 1024 := rfl
  rw [isValid, Bool.and_eq_true, bne_iff_ne]
  constructor
  · rintro ⟨hrate, htracks⟩
    refine ⟨hrate, ?_⟩
    cases hc : e.channels <;> simp_all [UInt32.le_iff_toNat_le]
  · rintro ⟨hrate, htracks⟩
    refine ⟨hrate, ?_⟩
    cases hc : e.channels <;> simp_all [UInt32.le_iff_toNat_le]

/-- A usable encoding has 1024 channels at most. -/
theorem channelCount_le {e : MediaEncoding} (he : e.IsUsable) : e.channelCount ≤ 1024 := by
  have htracks := he.tracks
  rw [channelCount]
  cases hc : e.channels with
  | mono => exact Nat.le_of_ble_eq_true rfl
  | stereo => exact Nat.le_of_ble_eq_true rfl
  | multitrack =>
    rw [hc, if_pos rfl] at htracks
    exact htracks.2

/-- No encoding has more channels than fit a word. -/
theorem channelCount_lt (e : MediaEncoding) : e.channelCount < 2 ^ 32 := by
  rw [channelCount]
  cases e.channels with
  | mono => exact Nat.lt_of_sub_eq_succ rfl
  | stereo => exact Nat.lt_of_sub_eq_succ rfl
  | multitrack => exact e.tracks.toNat_lt

end MediaEncoding

/-- A packet size fits a word. -/
theorem ContextConfig.packetSize_lt (config : ContextConfig) : config.packetSize < 2 ^ 32 := by
  rw [ContextConfig.packetSize]
  split
  · exact Nat.lt_of_sub_eq_succ rfl
  · exact config.maxPacketSize.toNat_lt

namespace Loopback

/-! ## Spans of time -/

/-- The number of samples in a span is counted exactly, if it fits a word; at least one frame. -/
theorem samplesFor?_eq_some_iff {rate : UInt32} {channels n : Nat} {d : Duration}
    (hchannels : 0 < channels) :
    samplesFor? rate channels d = some n ↔
      max (framesIn rate d) 1 * channels < 2 ^ 64 ∧ max (framesIn rate d) 1 * channels = n := by
  have hlimit : sizeLimit = 2 ^ 64 := rfl
  have hframes : framesIn rate d ≤ max (framesIn rate d) 1 * channels :=
    Nat.le_trans (Nat.le_max_left _ 1) (Nat.le_mul_of_pos_right _ hchannels)
  rw [samplesFor?, hlimit]
  by_cases hsize : max (framesIn rate d) 1 * channels < 2 ^ 64
  · rw [if_pos ⟨Nat.lt_of_le_of_lt hframes hsize, hsize⟩, Option.some_inj]
    exact ⟨fun h => ⟨hsize, h⟩, fun h => h.2⟩
  · rw [if_neg fun h => hsize h.2]
    exact ⟨fun h => absurd h.symm (Option.some_ne_none n), fun h => absurd h.1 hsize⟩

/-- The rate and a span of time are multiplied in 128 bits. -/
theorem rate_mul_nanos_lt (rate : UInt32) (d : Duration) : rate.toNat * d.nanos < 2 ^ 128 := by
  have hrate := rate.toNat_lt
  have hnanos : d.nanos < 18446744073709551616 * 1000000000 := d.nanos_lt
  calc rate.toNat * d.nanos ≤ 2 ^ 32 * (18446744073709551616 * 1000000000) :=
        Nat.mul_le_mul (Nat.le_of_lt hrate) (Nat.le_of_lt hnanos)
    _ < 2 ^ 128 := by decide

/-- The samples of ten seconds are never too many. -/
theorem samples_lt (rate : UInt32) {channels : Nat} {d : Duration} (hchannels : channels ≤ 1024)
    (hd : d.nanos ≤ 10000000000) : max (framesIn rate d) 1 * channels < 2 ^ 46 := by
  have hframes : framesIn rate d ≤ 2 ^ 32 * 10 := by
    calc framesIn rate d ≤ 2 ^ 32 * 10000000000 / 1000000000 :=
          Nat.div_le_div_right (Nat.mul_le_mul (Nat.le_of_lt rate.toNat_lt) hd)
      _ = 2 ^ 32 * 10 := by decide
  calc max (framesIn rate d) 1 * channels ≤ 2 ^ 32 * 10 * 1024 :=
        Nat.mul_le_mul (Nat.max_le.mpr ⟨hframes, by decide⟩) hchannels
    _ < 2 ^ 46 := by decide

/-! ## Senders -/

/-- An encoding that packets can be in at this moment: it is built in, or registered on the context. -/
def StandsFor (k : ContextState) (e : PacketEncoding) (m : MediaEncoding) : Prop :=
  e.builtin? = some m ∨ ∃ id, e = .registered id ∧ k.encodings.get? id = some m

/-- The samples that a packet of a sender is to hold: those of five milliseconds if nothing is
configured, and at least a frame. -/
def samplesWanted (c : SenderConfig) : Nat :=
  max (c.frameEncoding.rate.toNat *
    (if c.packetLength.nanos = 0 then 5000000 else c.packetLength.nanos) / 1000000000) 1 *
      c.frameEncoding.channelCount

/-- What a sender needs of its context. -/
structure SuitsSender (k : ContextState) (c : SenderConfig) : Prop where
  /-- An encoding of the packets that is asked for has the rate and the channels of the frames. -/
  encoding : ∀ e, c.packetEncoding = some e → ∃ m, StandsFor k e m ∧
    m.rate = c.frameEncoding.rate ∧ m.channelCount = c.frameEncoding.channelCount
  /-- One sample of each channel goes into a datagram. -/
  room : 16 + 4 * c.frameEncoding.channelCount ≤ k.packetSize
  /-- The samples of a packet can be counted in 64 bits. -/
  length : samplesWanted c < 2 ^ 64

/-- A packet encoding is found if it stands for one that is usable in this context. -/
theorem packetEncoding?_eq_some_iff {k : ContextState} {e : PacketEncoding}
    {packets : Option MediaEncoding} :
    packetEncoding? k (some e) = some packets ↔ ∃ m, packets = some m ∧ StandsFor k e m := by
  cases e with
  | avpL16Mono =>
    constructor
    · intro h
      exact ⟨_, (Option.some.inj h).symm, .inl rfl⟩
    · rintro ⟨m, rfl, hm | ⟨id, hid, -⟩⟩
      · exact congrArg some hm
      · exact absurd hid nofun
  | avpL16Stereo =>
    constructor
    · intro h
      exact ⟨_, (Option.some.inj h).symm, .inl rfl⟩
    · rintro ⟨m, rfl, hm | ⟨id, hid, -⟩⟩
      · exact congrArg some hm
      · exact absurd hid nofun
  | registered id =>
    constructor
    · intro h
      obtain ⟨m, hm, rfl⟩ := Option.map_eq_some_iff.mp h
      exact ⟨m, rfl, .inr ⟨id, rfl, hm⟩⟩
    · rintro ⟨m, rfl, hm | ⟨id', hid, hm⟩⟩
      · exact absurd hm nofun
      · obtain rfl := PacketEncoding.registered.inj hid
        exact Option.map_eq_some_iff.mpr ⟨m, hm, rfl⟩

/-- Frames are carried by packets of the same rate and the same number of channels. -/
theorem carries_iff (k : ContextState) (c : SenderConfig) :
    (∃ packets, packetEncoding? k c.packetEncoding = some packets ∧
        carries c.frameEncoding packets = true) ↔
      ∀ e, c.packetEncoding = some e → ∃ m, StandsFor k e m ∧
        m.rate = c.frameEncoding.rate ∧ m.channelCount = c.frameEncoding.channelCount := by
  have hcarries (m : MediaEncoding) : carries c.frameEncoding (some m) = true ↔
      m.rate = c.frameEncoding.rate ∧ m.channelCount = c.frameEncoding.channelCount := by
    rw [carries, Option.all_some, Bool.and_eq_true, decide_eq_true_eq, decide_eq_true_eq]
  cases c.packetEncoding with
  | none => exact ⟨fun _ => nofun, fun _ => ⟨none, rfl, rfl⟩⟩
  | some e =>
    constructor
    · rintro ⟨packets, hpackets, hsame⟩ _ ⟨⟩
      obtain ⟨m, rfl, hm⟩ := packetEncoding?_eq_some_iff.mp hpackets
      exact ⟨m, hm, (hcarries m).mp hsame⟩
    · intro h
      obtain ⟨m, hm, hsame⟩ := h e rfl
      exact ⟨some m, packetEncoding?_eq_some_iff.mpr ⟨m, rfl, hm⟩, (hcarries m).mpr hsame⟩

/-- A frame fits into a datagram exactly if what fits, rounded down to whole frames, is not nothing. -/
theorem fitting_ne_zero_iff {packetSize channels : Nat} (hchannels : 0 < channels) :
    Packet.maxSamples packetSize / channels * channels ≠ 0 ↔ 16 + 4 * channels ≤ packetSize := by
  have hfit : channels ≤ Packet.maxSamples packetSize ↔ 16 + 4 * channels ≤ packetSize := by
    rw [Packet.maxSamples, Packet.headerLength]
    omega
  rw [← hfit, Nat.mul_ne_zero_iff]
  constructor
  · rintro ⟨hfrom, -⟩
    exact Nat.le_of_not_lt fun hlt => hfrom (Nat.div_eq_of_lt hlt)
  · intro hle
    exact ⟨Nat.ne_of_gt (Nat.div_pos hle hchannels), Nat.ne_of_gt hchannels⟩

/-- The samples that a packet is to hold, if the count fits. -/
theorem samplesFor?_effectivePacketLength (c : SenderConfig)
    (hchannels : 0 < c.frameEncoding.channelCount) (n : Nat) :
    samplesFor? c.frameEncoding.rate c.frameEncoding.channelCount c.effectivePacketLength = some n ↔
      samplesWanted c < 2 ^ 64 ∧ samplesWanted c = n := by
  have hnanos : c.effectivePacketLength.nanos =
      if c.packetLength.nanos = 0 then 5000000 else c.packetLength.nanos := by
    have hzero : c.packetLength = .zero ↔ c.packetLength.nanos = 0 := by
      rw [Duration.mk.injEq]
      rfl
    rw [SenderConfig.effectivePacketLength]
    by_cases h : c.packetLength = .zero
    · rw [if_pos h, if_pos (hzero.mp h)]
      rfl
    · rw [if_neg h, if_neg fun hnanos => h (hzero.mpr hnanos)]
  rw [samplesFor?_eq_some_iff hchannels, framesIn, hnanos]
  rfl

/-- The packets of a sender hold what they are to hold, or as many whole frames as fit. -/
theorem packetSamples?_eq_some_iff {k : ContextState} {c : SenderConfig}
    (hchannels : 0 < c.frameEncoding.channelCount) (n : Nat) :
    packetSamples? k c = some n ↔ SuitsSender k c ∧
      n = min (samplesWanted c) (Packet.maxSamples k.packetSize / c.frameEncoding.channelCount *
        c.frameEncoding.channelCount) := by
  rw [packetSamples?, Option.bind_eq_bind, Option.bind_eq_some_iff]
  constructor
  · rintro ⟨packets, hpackets, h⟩
    dsimp only at h
    split at h
    · next hsuits =>
      obtain ⟨wanted, hwanted, h⟩ := Option.bind_eq_some_iff.mp h
      obtain ⟨hlength, rfl⟩ := (samplesFor?_effectivePacketLength c hchannels wanted).mp hwanted
      exact ⟨⟨(carries_iff k c).mp ⟨packets, hpackets, hsuits.1⟩,
        (fitting_ne_zero_iff hchannels).mp hsuits.2, hlength⟩, (Option.some.inj h).symm⟩
    · exact absurd h nofun
  · rintro ⟨⟨hencoding, hroom, hlength⟩, rfl⟩
    obtain ⟨packets, hpackets, hcarries⟩ := (carries_iff k c).mpr hencoding
    refine ⟨packets, hpackets, ?_⟩
    dsimp only
    rw [if_pos ⟨hcarries, (fitting_ne_zero_iff hchannels).mpr hroom⟩,
      (samplesFor?_effectivePacketLength c hchannels _).mpr ⟨hlength, rfl⟩]
    rfl

/-! ## Receivers -/

/-- The bound on the latency does not depend on the default in its place. -/
theorem nanos_effectiveTargetLatency (c : ReceiverConfig) :
    c.effectiveTargetLatency.nanos ≤ 10000000000 ↔ c.targetLatency.nanos ≤ 10000000000 := by
  rw [ReceiverConfig.effectiveTargetLatency]
  by_cases h : c.targetLatency = .zero
  · rw [if_pos h, h]
    decide
  · rw [if_neg h]

/-- A receiver is refused for its latency only: its sizes can always be counted. -/
theorem isSome_playout?_iff {c : ReceiverConfig} (he : c.frameEncoding.IsUsable) :
    (∃ p, playout? c = some p) ↔ c.targetLatency.nanos ≤ 10000000000 := by
  have hchannels : 0 < c.frameEncoding.channelCount :=
    MediaEncoding.channelCount_pos ((MediaEncoding.isValid_iff _).mpr he)
  have hmost := MediaEncoding.channelCount_le he
  have hmax : ReceiverConfig.maxTargetLatency.nanos = 10000000000 := rfl
  rw [← nanos_effectiveTargetLatency, playout?, hmax]
  by_cases hlatency : 10000000000 < c.effectiveTargetLatency.nanos
  · rw [if_pos hlatency]
    constructor
    · rintro ⟨p, hp⟩
      exact absurd hp.symm (Option.some_ne_none p)
    · intro hle
      exact absurd hlatency (Nat.not_lt.mpr hle)
  · have hle := Nat.le_of_not_lt hlatency
    have hprebuffer := samples_lt c.frameEncoding.rate hmost hle
    have hreserve := samples_lt c.frameEncoding.rate hmost (d := second) (by decide)
    have hlimit : sizeLimit = 2 ^ 64 := rfl
    rw [if_neg hlatency, (samplesFor?_eq_some_iff hchannels).mpr ⟨by omega, rfl⟩,
      (samplesFor?_eq_some_iff hchannels).mpr ⟨by omega, rfl⟩]
    refine ⟨fun _ => hle, fun _ => Option.isSome_iff_exists.mp ?_⟩
    rw [Option.bind_eq_bind, Option.bind_some, Option.bind_some, if_pos (by omega)]
    rfl

/-! ## Peers -/

/-- What a peer can be opened with. -/
def IsOpenable (k : ContextState) : PeerConfig → Prop
  | .sender c => c.frameEncoding.IsUsable ∧ SuitsSender k c
  | .receiver c => c.frameEncoding.IsUsable ∧ c.targetLatency.nanos ≤ 10000000000

/-- Sizes are whole frames. What a sender puts into a packet fits into a datagram, and a receiver
gathers less than it can queue. -/
def Flow.IsSized (channels packetSize : Nat) : Flow → Prop
  | sending _ _ p => 0 < p.size ∧ channels ∣ p.size ∧ 16 + 4 * p.size ≤ packetSize
  | receiving p =>
    0 < p.prebuffer ∧ p.prebuffer < p.capacity ∧ channels ∣ p.prebuffer ∧ channels ∣ p.capacity

section Flow

variable {k : ContextState} {stream : UInt32} {config : PeerConfig}

/-- Every positive size gives a packetizer. -/
theorem exists_packetizer?_iff {n : Nat} : (∃ p, packetizer? n = some p) ↔ 0 < n := by
  rw [packetizer?]
  constructor
  · rintro ⟨p, hp⟩
    split at hp
    · assumption
    · exact absurd hp.symm (Option.some_ne_none p)
  · intro hn
    rw [dif_pos hn]
    exact ⟨_, rfl⟩

/-- A flow is set up for exactly what can be opened. -/
theorem exists_flow?_iff (he : config.frameEncoding.IsUsable) :
    (∃ flow, flow? k stream config = some flow) ↔ IsOpenable k config := by
  have hchannels : 0 < config.frameEncoding.channelCount :=
    MediaEncoding.channelCount_pos ((MediaEncoding.isValid_iff _).mpr he)
  cases config with
  | sender c =>
    constructor
    · rintro ⟨flow, hflow⟩
      obtain ⟨n, hn, -⟩ := Option.bind_eq_some_iff.mp hflow
      exact ⟨he, ((packetSamples?_eq_some_iff hchannels n).mp hn).1⟩
    · rintro ⟨-, hsuits⟩
      have hn := (packetSamples?_eq_some_iff hchannels _).mpr ⟨hsuits, rfl⟩
      obtain ⟨p, hp⟩ := exists_packetizer?_iff.mpr (pos_of_packetSamples? hn)
      refine ⟨.sending c.fecEncoding stream p, ?_⟩
      rw [flow?, hn, Option.bind_eq_bind, Option.bind_some, hp]
      rfl
  | receiver c =>
    rw [IsOpenable, ← isSome_playout?_iff he]
    constructor
    · rintro ⟨flow, hflow⟩
      obtain ⟨p, hp, -⟩ := Option.map_eq_some_iff.mp hflow
      exact ⟨he, p, hp⟩
    · rintro ⟨-, p, hp⟩
      exact ⟨.receiving p, Option.map_eq_some_iff.mpr ⟨p, hp, rfl⟩⟩

/-- A flow that is set up is sized for the packets of its context. -/
theorem isSized_of_flow? {flow : Flow} (hchannels : 0 < config.frameEncoding.channelCount)
    (hflow : flow? k stream config = some flow) :
    flow.IsSized config.frameEncoding.channelCount k.packetSize := by
  cases config with
  | sender c =>
    obtain ⟨n, hn, h⟩ := Option.bind_eq_some_iff.mp hflow
    obtain ⟨p, hp, h⟩ := Option.bind_eq_some_iff.mp h
    obtain rfl := Option.some.inj h
    have hsize : p.size = n := by
      rw [packetizer?, dif_pos (pos_of_packetSamples? hn)] at hp
      rw [← Option.some.inj hp]
    obtain ⟨⟨-, hroom, -⟩, hmin⟩ := (packetSamples?_eq_some_iff hchannels n).mp hn
    rw [Flow.IsSized, hsize]
    refine ⟨pos_of_packetSamples? hn, dvd_of_packetSamples? hn, ?_⟩
    have hfits : n ≤ (k.packetSize - 16) / 4 := by
      rw [hmin]
      exact Nat.le_trans (Nat.min_le_right _ _) (Nat.div_mul_le_self _ _)
    -- The header fits as well, since a frame fits behind it.
    omega
  | receiver c =>
    obtain ⟨p, hp, rfl⟩ := Option.map_eq_some_iff.mp hflow
    have hidle := isIdle_of_playout? hp
    obtain ⟨hprebuffer, hcapacity, -⟩ := sizes_of_playout? hchannels hp
    exact ⟨hprebuffer, hcapacity, hidle.prebuffer, hidle.capacity⟩

end Flow

/-- What opening a peer on a live context does. -/
theorem Site.openPeer_live {site : Site} {c : ContextHandle} {k : ContextState}
    (hk : site.state.contexts.get? c = some k) (config : PeerConfig) :
    ¬ IsOpenable k config ∧ site.openPeer c config = (.error .invalidArgument, site) ∨
      IsOpenable k config ∧ ∃ q, (site.openPeer c config).1 = .ok ⟨site.state.nextId⟩ ∧
        (site.openPeer c config).2.state.peers.get? ⟨site.state.nextId⟩ = some q ∧
        0 < q.channels ∧ q.flow.IsSized q.channels k.packetSize := by
  have husable : IsOpenable k config → config.frameEncoding.IsUsable := by
    cases config with
    | sender c => exact And.left
    | receiver c => exact And.left
  rw [openPeer, hk]
  dsimp only
  by_cases hvalid : config.frameEncoding.isValid = false
  · rw [if_pos hvalid]
    refine .inl ⟨fun hopenable => ?_, rfl⟩
    rw [(MediaEncoding.isValid_iff _).mpr (husable hopenable)] at hvalid
    exact absurd hvalid.symm Bool.false_ne_true
  · rw [if_neg hvalid]
    have he := (MediaEncoding.isValid_iff _).mp (Bool.not_eq_false _ ▸ hvalid)
    have hchannels := MediaEncoding.channelCount_pos ((MediaEncoding.isValid_iff _).mpr he)
    -- Once the encoding is usable, a flow is set up for exactly what can be opened.
    have hflow_iff : (∃ flow, flow? k (site.machine.draw).1 config = some flow) ↔
        IsOpenable k config := exists_flow?_iff he
    cases hflow : flow? k (site.machine.draw).1 config with
    | none =>
      refine .inl ⟨fun hopenable => ?_, rfl⟩
      obtain ⟨flow, hsome⟩ := hflow_iff.mpr hopenable
      exact absurd (hsome.symm.trans hflow) (Option.some_ne_none flow)
    | some flow =>
      exact .inr ⟨hflow_iff.mp ⟨flow, hflow⟩, _, rfl, Table.get?_insert_self _ _ _, hchannels,
        isSized_of_flow? hchannels hflow⟩

/-! ## Contexts in runs -/

namespace Site

/-- The configuration of the context that is opened under this handle, if this is what happens. -/
def contextOpened? (site : Site) (c : ContextHandle) : Happening → Option ContextConfig
  | .request (.contextOpen config) =>
    if (site.openContext config).1.toOption = some c then some config else none
  | _ => none

/-- A context that has been opened has a valid configuration. -/
theorem isValid_of_openContext {site : Site} {config : ContextConfig} {c : ContextHandle}
    (hok : (site.openContext config).1.toOption = some c) : config.isValid = true := by
  rw [openContext] at hok
  by_cases hvalid : config.isValid = false
  · rw [if_pos hvalid] at hok
    exact absurd hok nofun
  · exact Bool.not_eq_false _ ▸ hvalid

end Site

/-- What there is of a context after something has happened: it has just been opened, or its
datagrams are as long as they were. -/
inductive Remains (site : Site) (c : ContextHandle) (e : Happening) (k' : ContextState) : Prop
  | opened (config : ContextConfig) (hopened : site.contextOpened? c e = some config)
      (hvalid : config.isValid = true) (hsize : k'.packetSize = config.packetSize)
  | went (k : ContextState) (hopened : site.contextOpened? c e = none)
      (hk : site.state.contexts.get? c = some k) (hsize : k'.packetSize = k.packetSize)

namespace Remains

variable {site : Site} {c c₁ : ContextHandle} {e : Happening} {k₁ k' : ContextState}

/-- A context that is what it was remains. -/
theorem of_still (hopened : site.contextOpened? c e = none)
    (hk' : site.state.contexts.get? c = some k') : Remains site c e k' :=
  .went k' hopened hk' rfl

/-- A context that is put in the place of what it was has datagrams as long as before. -/
theorem of_insert (hopened : site.contextOpened? c e = none)
    (hk₁ : site.state.contexts.get? c₁ = some k₁) (k₁' : ContextState)
    (hsize : k₁'.packetSize = k₁.packetSize)
    (hk' : (site.state.contexts.insert c₁ k₁').get? c = some k') : Remains site c e k' := by
  rcases Table.get?_insert_cases hk' with ⟨rfl, rfl⟩ | ⟨-, hk'⟩
  · exact .went k₁ hopened hk₁ hsize
  · exact .of_still hopened hk'

/-- A context remains when something else than its packet size changes. -/
theorem of_modify (hopened : site.contextOpened? c e = none) {f : ContextState → ContextState}
    (hf : ∀ k, (f k).packetSize = k.packetSize)
    (hk' : (site.state.contexts.modify c₁ f).get? c = some k') : Remains site c e k' := by
  rw [Table.modify] at hk'
  cases hk₁ : site.state.contexts.get? c₁ with
  | none =>
    rw [hk₁] at hk'
    exact .of_still hopened hk'
  | some k₁ =>
    rw [hk₁] at hk'
    exact .of_insert hopened hk₁ (f k₁) (hf k₁) hk'

/-- Requests about slots change no context. -/
theorem of_setsSlot {α : Type} {h : PeerHandle} {slot : Slot} {result : Answer α × Site}
    (hopened : site.contextOpened? c e = none) (hsets : Site.SetsSlot site h slot result)
    (hk' : result.2.state.contexts.get? c = some k') : Remains site c e k' := by
  cases hsets with
  | refused code => exact .of_still hopened hk'
  | set hq answer machine s => exact .of_still hopened hk'

end Remains

/-- Whatever happens, a context is as it was, if it has not just been opened. -/
theorem Site.remains_after {site : Site} {c : ContextHandle} {k' : ContextState} (e : Happening)
    (hk' : (site.after e).state.contexts.get? c = some k') : Remains site c e k' := by
  -- What is asked about a peer that stays open leaves the contexts alone.
  cases e with
  | machine change => exact .of_still rfl hk'
  | settle h =>
    rw [Site.after] at hk'
    rcases site.settle_cases h with ⟨hsettle, -⟩ | ⟨q, machine, -, hsettle⟩
    · rw [hsettle] at hk'
      exact .of_still rfl hk'
    · rw [hsettle] at hk'
      exact .of_still rfl hk'
  | request r =>
    rw [Site.after] at hk'
    cases r with
    | contextOpen config =>
      rw [engine] at hk'
      rcases site.openContext_cases config with ⟨code, hopen⟩ | hopen
      · rw [hopen] at hk'
        have hopened : site.contextOpened? c (.request (.contextOpen config)) = none := by
          rw [contextOpened?, hopen]
          exact if_neg nofun
        exact .of_still hopened hk'
      · rw [hopen] at hk'
        rcases Table.get?_insert_cases hk' with ⟨rfl, rfl⟩ | ⟨hother, hk'⟩
        · have hok : (site.openContext config).1.toOption = some ⟨site.state.nextId⟩ := by
            rw [hopen]
            rfl
          exact .opened config (if_pos hok) (isValid_of_openContext hok) rfl
        · have hopened : site.contextOpened? c (.request (.contextOpen config)) = none := by
            rw [contextOpened?, hopen]
            exact if_neg fun heq => hother (Option.some.inj heq).symm
          exact .of_still hopened hk'
    | registerEncoding c₁ id encoding =>
      rw [engine] at hk'
      rcases site.registerEncoding_cases c₁ id encoding with ⟨code, hregister⟩ | ⟨k, hk, hregister⟩
      · rw [hregister] at hk'
        exact .of_still rfl hk'
      · rw [hregister] at hk'
        exact .of_insert rfl hk { k with encodings := k.encodings.insert id encoding } rfl hk'
    | contextClose c₁ =>
      rw [engine] at hk'
      rcases site.closeContext_cases c₁ with ⟨⟨code, hclose⟩, -⟩ | ⟨k, -, -, hclose⟩
      · rw [hclose] at hk'
        exact .of_still rfl hk'
      · rw [hclose] at hk'
        exact .of_still rfl (Table.get?_of_get?_erase hk').2
    | peerOpen c₁ config =>
      rw [engine] at hk'
      rcases site.openPeer_spec c₁ config with ⟨code, -, hsame⟩ | ⟨k, q, hk, -, -, hstate⟩
      · rw [hsame] at hk'
        exact .of_still rfl hk'
      · rw [hstate] at hk'
        exact .of_insert rfl hk { k with peers := k.peers + 1 } rfl hk'
    | configure h slot i config => exact .of_setsSlot rfl (site.setsSlot_configure h slot i config) hk'
    | bind h slot i endpoint => exact .of_setsSlot rfl (site.setsSlot_bind h slot i endpoint) hk'
    | connect h slot i endpoint =>
      exact .of_setsSlot rfl (site.setsSlot_connect h slot i endpoint) hk'
    | unlink h slot =>
      rw [engine] at hk'
      rcases site.unlink_cases h slot with ⟨code, hunlink⟩ | ⟨q, machine, -, hunlink⟩
      · rw [hunlink] at hk'
        exact .of_still rfl hk'
      · rw [hunlink] at hk'
        exact .of_still rfl hk'
    | peerClose h =>
      rw [engine] at hk'
      rcases site.closePeer_cases h with ⟨⟨code, hclose⟩, -⟩ | ⟨q, machine, -, hclose⟩
      · rw [hclose] at hk'
        exact .of_still rfl hk'
      · rw [hclose] at hk'
        exact .of_modify (f := fun k => { k with peers := k.peers - 1 }) rfl (fun _ => rfl) hk'
    | read h n =>
      rw [engine] at hk'
      rcases site.read_cases h n with ⟨code, hread⟩ | ⟨q, p, machine, pacer, -, -, -, hread⟩
      · rw [hread] at hk'
        exact .of_still rfl hk'
      · rw [hread] at hk'
        exact .of_still rfl hk'
    | write h frame =>
      rw [engine] at hk'
      rcases site.write_cases h frame with
        ⟨code, hwrite⟩ | ⟨q, fec, stream, p, machine, pacer, -, -, -, hwrite⟩
      · rw [hwrite] at hk'
        exact .of_still rfl hk'
      · rw [hwrite] at hk'
        exact .of_still rfl hk'

/-- The datagrams of every context are as long as a configuration can say. -/
def FitsWords (contexts : Table ContextHandle ContextState) : Prop :=
  ∀ c k, contexts.get? c = some k → k.packetSize < 2 ^ 32

namespace FitsWords

theorem empty : FitsWords .empty := fun _ _ hk => absurd hk nofun

variable {site : Site}

/-- No event gives a context a packet size that does not fit. -/
theorem after (hfits : FitsWords site.state.contexts) (e : Happening) :
    FitsWords (site.after e).state.contexts := by
  intro c k' hk'
  cases site.remains_after e hk' with
  | opened config _ _ hsize =>
    rw [hsize]
    exact config.packetSize_lt
  | went k _ hk hsize =>
    rw [hsize]
    exact hfits c k hk

/-- No run gives a context a packet size that does not fit. -/
theorem afterAll (hfits : FitsWords site.state.contexts) (events : List Happening) :
    FitsWords (site.afterAll events).state.contexts := by
  induction events generalizing site with
  | nil => exact hfits
  | cons e events ih => exact ih (hfits.after e)

end FitsWords

/-- What opening a peer divides by, and the numbers that it forms without asking whether they are too
large. -/
structure StaysInRange (k : ContextState) (config : PeerConfig) : Prop where
  /-- Whole frames are counted only after the encoding has been found usable. -/
  divisor : config.frameEncoding.isValid = true → config.frameEncoding.channelCount ≠ 0
  channels : config.frameEncoding.channelCount < 2 ^ 64
  /-- Spans of time are multiplied by the rate in 128 bits. -/
  product : ∀ d : Duration, config.frameEncoding.rate.toNat * d.nanos < 2 ^ 128
  /-- What fits into a datagram is rounded down to whole frames. -/
  fitting : Packet.maxSamples k.packetSize / config.frameEncoding.channelCount *
    config.frameEncoding.channelCount < 2 ^ 64

/-- Where the packet size fits a word, so does all that is computed in opening a peer. -/
theorem staysInRange {k : ContextState} (hk : k.packetSize < 2 ^ 32) (config : PeerConfig) :
    StaysInRange k config where
  divisor hvalid := Nat.ne_of_gt (MediaEncoding.channelCount_pos hvalid)
  channels := Nat.lt_trans config.frameEncoding.channelCount_lt (by decide)
  product := rate_mul_nanos_lt config.frameEncoding.rate
  fitting := by
    have hwhole := Nat.div_mul_le_self (Packet.maxSamples k.packetSize)
      config.frameEncoding.channelCount
    have hmax : Packet.maxSamples k.packetSize ≤ k.packetSize :=
      Nat.le_trans (Nat.div_le_self _ 4) (Nat.sub_le _ _)
    omega

/-- In every run, a peer is opened on a context that is there exactly if the configuration says what is
usable with the encodings that are registered by then; otherwise the request is refused and nothing
changes. A peer that has been opened has a channel, and its sizes are whole frames and fit. Whatever
the configuration is, nothing is divided by zero and no number gets too large on the way. -/
theorem opens_iff_isOpenable (machine : Machine) (events : List Happening) (c : ContextHandle)
    (k : ContextState) (hk : (({ machine } : Site).afterAll events).state.contexts.get? c = some k)
    (config : PeerConfig) :
    let site := ({ machine } : Site).afterAll events
    ((∃ h, (engine (.peerOpen c config) site).1 = .ok h) ↔ IsOpenable k config) ∧
    (¬ IsOpenable k config → engine (.peerOpen c config) site = (.error .invalidArgument, site)) ∧
    (∀ h, (engine (.peerOpen c config) site).1 = .ok h →
      ∃ q, (engine (.peerOpen c config) site).2.state.peers.get? h = some q ∧
        1 ≤ q.channels ∧ q.flow.IsSized q.channels k.packetSize) ∧
    StaysInRange k config := by
  intro site
  have hfits : FitsWords site.state.contexts := FitsWords.empty.afterAll events
  have hrange := staysInRange (hfits c k hk) config
  rw [engine]
  rcases Site.openPeer_live hk config with ⟨hnot, hopen⟩ | ⟨hopenable, q, hok, hq, hsizes⟩
  · rw [hopen]
    exact ⟨⟨fun ⟨h, hh⟩ => absurd hh nofun, fun hopenable => absurd hopenable hnot⟩, fun _ => rfl,
      fun h hh => absurd hh nofun, hrange⟩
  · refine ⟨⟨fun _ => hopenable, fun _ => ⟨_, hok⟩⟩, fun hnot => absurd hopenable hnot,
      fun h hh => ?_, hrange⟩
    obtain rfl := Except.ok.inj (hok.symm.trans hh)
    exact ⟨q, hq, hsizes⟩

/-- Packets of stereo frames in datagrams of 128 bytes, in an encoding that is registered under the
number 100: fourteen frames go into a packet. Under 101 nothing is registered. -/
theorem opens_iff_isOpenable_registered :
    let machine : Machine := { host := .selfContained, random := fun _ => 7 }
    let events : List Happening := [.request (.contextOpen { maxPacketSize := 128 }),
      .request (.registerEncoding ⟨1⟩ 100 (.stereo 48000))]
    let site := ({ machine } : Site).afterAll events
    let k : ContextState := { packetSize := 128, encodings := Table.empty.insert 100 (.stereo 48000) }
    let config (id : Int32) : PeerConfig := .sender {
      frameEncoding := .stereo 48000, packetEncoding := some (.registered id) }
    site.state.contexts.get? ⟨1⟩ = some k ∧ IsOpenable k (config 100) ∧ ¬ IsOpenable k (config 101) ∧
      engine (.peerOpen ⟨1⟩ (config 101)) site = (.error .invalidArgument, site) ∧
      ∃ q, (engine (.peerOpen ⟨1⟩ (config 100)) site).2.state.peers.get? ⟨2⟩ = some q ∧
        q.flow.IsSized q.channels 128 := by
  intro machine events site k config
  have hk : site.state.contexts.get? ⟨1⟩ = some k := rfl
  have hok : (engine (.peerOpen ⟨1⟩ (config 100)) site).1 = .ok ⟨2⟩ := by decide +kernel
  have herror : (engine (.peerOpen ⟨1⟩ (config 101)) site).1 = .error .invalidArgument := by
    decide +kernel
  obtain ⟨hopens, -, hsized, -⟩ := opens_iff_isOpenable machine events ⟨1⟩ k hk (config 100)
  obtain ⟨hopens', hrefused, -⟩ := opens_iff_isOpenable machine events ⟨1⟩ k hk (config 101)
  have hnot : ¬ IsOpenable k (config 101) := by
    intro hopenable
    obtain ⟨h, hh⟩ := hopens'.mpr hopenable
    exact absurd (herror.symm.trans hh) nofun
  obtain ⟨q, hq, -, hsizes⟩ := hsized ⟨2⟩ hok
  exact ⟨hk, hopens.mp ⟨⟨2⟩, hok⟩, hnot, hrefused hnot, q, hq, hsizes⟩

end Loopback
end AudioLink
