import AudioLink.Proofs.Loopback.Opening
import AudioLink.Proofs.Time.Period

/-
Spans of time as numbers of samples, and back.

A peer is opened with spans of time and works with numbers of samples, and a pacer makes a span out of
such a number again. Each of the two conversions is a division that rounds down, and they do not have
the same words at their disposal: one forms its product in 128 bits and checks what it narrows to 64,
the other has 64 bits for its product (`Pacer.Fits`). The first one is compared here with numbers
without bounds: what it yields, and when it refuses.

One after the other, the conversions give back the frames that they began with, or one frame fewer.
That it is never more than one comes from the rate: up to 10^9 frames in a second, no frame is shorter
than a nanosecond, and the first rounding takes away less than that.
-/
set_option autoImplicit false

namespace AudioLink

/-- The span of time that a peer makes its sizes of. -/
def PeerConfig.span : PeerConfig → Duration
  | sender c => c.effectivePacketLength
  | receiver c => c.effectiveTargetLatency

namespace Loopback

/-! ## Rounding twice -/

section Rounding

variable {rate unit : Nat}

/-- A number of frames that is turned into units of time and back does not grow. -/
theorem mul_div_div_le (rate n : Nat) (hunit : 0 < unit) : rate * (n * unit / rate) / unit ≤ n := by
  calc rate * (n * unit / rate) / unit ≤ n * unit / unit :=
        Nat.div_le_div_right (Nat.mul_div_le (n * unit) rate)
    _ = n := Nat.mul_div_cancel n hunit

/-- At most one frame is lost, unless frames are shorter than the unit of time. -/
theorem le_mul_div_div_add_one (n : Nat) (hpos : 0 < rate) (hrate : rate ≤ unit) :
    n ≤ rate * (n * unit / rate) / unit + 1 := by
  have hunit : 0 < unit := Nat.lt_of_lt_of_le hpos hrate
  -- The first division takes away less than `rate`, and this is no more than a unit.
  have hlost : n * unit ≤ rate * (n * unit / rate) + unit := by
    have hdiv := Nat.div_add_mod (n * unit) rate
    have hmod := Nat.mod_lt (n * unit) hpos
    omega
  calc n = n * unit / unit := (Nat.mul_div_cancel n hunit).symm
    _ ≤ (rate * (n * unit / rate) + unit) / unit := Nat.div_le_div_right hlost
    _ = rate * (n * unit / rate) / unit + 1 := Nat.add_div_right _ hunit

end Rounding

/-! ## What is counted -/

/-- The frames of a span of time: those that end within it, and at least one. -/
def frameCount (rate : UInt32) (d : Duration) : Nat :=
  max 1 (rate.toNat * d.nanos / 1000000000)

/-- Whether the frames of a span of time and their samples can both be counted in 64 bits. -/
def IsCountable (rate : UInt32) (channels : UInt64) (d : Duration) : Prop :=
  frameCount rate d < 2 ^ 64 ∧ frameCount rate d * channels.toNat < 2 ^ 64

instance (rate : UInt32) (channels : UInt64) (d : Duration) : Decidable (IsCountable rate channels d) :=
  inferInstanceAs (Decidable (_ ∧ _))

variable {rate : UInt32} {channels : UInt64} {d d' : Duration}

theorem frameCount_lt_iff (rate : UInt32) (d : Duration) :
    frameCount rate d < 2 ^ 64 ↔ framesIn rate d < sizeLimit := by
  have hcount : frameCount rate d = max 1 (framesIn rate d) := rfl
  have hlimit : sizeLimit = 2 ^ 64 := rfl
  rw [hcount, hlimit]
  omega

theorem samplesFor?_eq (rate : UInt32) (channels : UInt64) (d : Duration) :
    samplesFor? rate channels.toNat d =
      if IsCountable rate channels d then some (frameCount rate d * channels.toNat) else none := by
  have hcount : max (framesIn rate d) 1 = frameCount rate d := Nat.max_comm _ _
  rw [samplesFor?, hcount]
  exact if_congr (and_congr (frameCount_lt_iff rate d).symm Iff.rfl) rfl rfl

theorem samplesFor?_of_isCountable (h : IsCountable rate channels d) :
    samplesFor? rate channels.toNat d = some (frameCount rate d * channels.toNat) := by
  rw [samplesFor?_eq, if_pos h]

theorem samplesFor?_of_not_isCountable (h : ¬ IsCountable rate channels d) :
    samplesFor? rate channels.toNat d = none := by
  rw [samplesFor?_eq, if_neg h]

/-- What has no count is refused when a peer is opened. -/
theorem flow?_eq_none {k : ContextState} {stream : UInt32} {config : PeerConfig}
    (h : samplesFor? config.frameEncoding.rate config.frameEncoding.channelCount config.span = none) :
    flow? k stream config = none := by
  refine Option.eq_none_iff_forall_ne_some.mpr fun flow hflow => ?_
  cases config with
  | sender c =>
    obtain ⟨size, hsize, -⟩ := Option.bind_eq_some_iff.mp hflow
    obtain ⟨packets, -, hsize⟩ := Option.bind_eq_some_iff.mp hsize
    dsimp only at hsize
    split at hsize
    · obtain ⟨wanted, hwanted, -⟩ := Option.bind_eq_some_iff.mp hsize
      exact Option.some_ne_none wanted (hwanted.symm.trans h)
    · exact Option.some_ne_none size hsize.symm
  | receiver c =>
    obtain ⟨playout, hplayout, -⟩ := Option.map_eq_some_iff.mp hflow
    rw [playout?] at hplayout
    split at hplayout
    · exact Option.some_ne_none playout hplayout.symm
    · obtain ⟨prebuffer, hprebuffer, -⟩ := Option.bind_eq_some_iff.mp hplayout
      exact Option.some_ne_none prebuffer (hprebuffer.symm.trans h)

theorem engine_peerOpen_of_not_isCountable {site : Site} {c : ContextHandle} {k : ContextState}
    (hk : site.state.contexts.get? c = some k) {config : PeerConfig}
    (hrate : config.frameEncoding.rate = rate)
    (hchannels : config.frameEncoding.channelCount = channels.toNat)
    (h : ¬ IsCountable rate channels config.span) :
    engine (.peerOpen c config) site = (.error .invalidArgument, site) := by
  have hflow : flow? k (site.machine.draw).1 config = none := by
    refine flow?_eq_none ?_
    rw [hrate, hchannels]
    exact samplesFor?_of_not_isCountable h
  rw [engine, Site.openPeer, hk]
  dsimp only
  split
  · rfl
  · rw [hflow]
    rfl

/-! ## Counting in words -/

/-- The count of samples as it is made in words: the frames in 128 bits, from where they are narrowed
to 64, and their product with the channels in 64 bits. The narrowing and the last product are
checked. -/
def countInWords? (rate : UInt32) (channels : UInt64) (d : Duration) : Option UInt64 :=
  let frames := BitVec.ofNat 128 rate.toNat * BitVec.ofNat 128 d.nanos / BitVec.ofNat 128 1000000000
  if frames.toNat < UInt64.size then
    let whole := max (UInt64.ofNat frames.toNat) 1
    if whole.toNat * channels.toNat < UInt64.size then some (whole * channels) else none
  else none

/-- Nothing is lost of the product in 128 bits. -/
theorem toNat_framesInWords (rate : UInt32) (d : Duration) :
    (BitVec.ofNat 128 rate.toNat * BitVec.ofNat 128 d.nanos / BitVec.ofNat 128 1000000000).toNat =
      framesIn rate d := by
  rw [← BitVec.ofNat_mul, BitVec.toNat_udiv, BitVec.toNat_ofNat, BitVec.toNat_ofNat,
    Nat.mod_eq_of_lt (rate_mul_nanos_lt rate d), Nat.mod_eq_of_lt (by decide), framesIn]

theorem toNat_max_one (n : UInt64) : (max n 1).toNat = max 1 n.toNat := by
  calc (max n 1).toNat = if n ≤ 1 then 1 else n.toNat := apply_ite UInt64.toNat _ _ _
    _ = max n.toNat 1 := if_congr UInt64.le_iff_toNat_le rfl rfl
    _ = max 1 n.toNat := Nat.max_comm _ _

theorem countInWords?_eq (rate : UInt32) (channels : UInt64) (d : Duration) :
    (countInWords? rate channels d).map UInt64.toNat = samplesFor? rate channels.toNat d := by
  rw [countInWords?, toNat_framesInWords]
  dsimp only
  -- The two checks are those of `IsCountable`, one after the other.
  by_cases hframes : framesIn rate d < UInt64.size
  · have hcount : (max (UInt64.ofNat (framesIn rate d)) 1).toNat = frameCount rate d := by
      rw [toNat_max_one, UInt64.toNat_ofNat_of_lt' hframes]
      rfl
    rw [if_pos hframes, hcount]
    by_cases hsamples : frameCount rate d * channels.toNat < UInt64.size
    · rw [if_pos hsamples,
        samplesFor?_of_isCountable ⟨(frameCount_lt_iff rate d).mpr hframes, hsamples⟩,
        Option.map_some, UInt64.toNat_mul, hcount, Nat.mod_eq_of_lt hsamples]
    · rw [if_neg hsamples, samplesFor?_of_not_isCountable fun h => hsamples h.2]
      rfl
  · rw [if_neg hframes,
      samplesFor?_of_not_isCountable fun h => hframes ((frameCount_lt_iff rate d).mp h.1)]
    rfl

/-! ## Longer spans -/

theorem frameCount_mono (rate : UInt32) (hd : d.nanos ≤ d'.nanos) :
    frameCount rate d ≤ frameCount rate d' := by
  have hframes : rate.toNat * d.nanos / 1000000000 ≤ rate.toNat * d'.nanos / 1000000000 :=
    Nat.div_le_div_right (Nat.mul_le_mul_left _ hd)
  exact Nat.max_le.mpr ⟨Nat.le_max_left _ _, Nat.le_trans hframes (Nat.le_max_right _ _)⟩

/-- A longer span has more samples, or too many. -/
theorem samplesFor?_mono {n' : Nat} (hd : d.nanos ≤ d'.nanos)
    (h : samplesFor? rate channels.toNat d' = some n') :
    ∃ n, samplesFor? rate channels.toNat d = some n ∧ n ≤ n' := by
  have hsamples : frameCount rate d * channels.toNat ≤ frameCount rate d' * channels.toNat :=
    Nat.mul_le_mul_right _ (frameCount_mono rate hd)
  rw [samplesFor?_eq] at h
  split at h
  · next hlonger =>
    have hshorter : IsCountable rate channels d :=
      ⟨Nat.lt_of_le_of_lt (frameCount_mono rate hd) hlonger.1,
        Nat.lt_of_le_of_lt hsamples hlonger.2⟩
    rw [← Option.some.inj h]
    exact ⟨_, samplesFor?_of_isCountable hshorter, hsamples⟩
  · exact absurd h.symm (Option.some_ne_none n')

/-! ## Samples as a span and back -/

section Period

variable {n : Nat}

/-- Whole frames whose product with 10^9 fits into a word last in every build as long as they should. -/
theorem period?_frames (build : Build) (hrate : 1 ≤ rate.toNat) (hchannels : 1 ≤ channels.toNat)
    (hfits : n * 1000000000 < 2 ^ 64) (hsamples : n * channels.toNat < 2 ^ 64) :
    ∃ d, (Pacer.new rate channels).period? build (UInt64.ofNat (n * channels.toNat)) = some d ∧
      d.nanos = n * 1000000000 / rate.toNat := by
  have hframes : Pacer.framesOf channels (UInt64.ofNat (n * channels.toNat)) = n := by
    rw [Pacer.framesOf, UInt64.toNat_ofNat_of_lt' hsamples, Nat.max_eq_left hchannels,
      Nat.mul_div_cancel n hchannels]
  have hword : Pacer.Fits channels (UInt64.ofNat (n * channels.toNat)) := by
    rw [Pacer.Fits, hframes]
    exact hfits
  refine ⟨_, Pacer.period?_of_fits build rate hword, ?_⟩
  rw [Pacer.period_of_fits rate hword, Pacer.lasting, hframes, Nat.max_eq_left hrate]

/-- What is counted in the period of some frames is these frames, or one fewer but not none. -/
theorem frameCount_of_nanos_eq (hpos : 1 ≤ rate.toNat) (hrate : rate.toNat ≤ 1000000000) (hn : 1 ≤ n)
    (hd : d.nanos = n * 1000000000 / rate.toNat) :
    max 1 (n - 1) ≤ frameCount rate d ∧ frameCount rate d ≤ n := by
  have hmost : rate.toNat * (n * 1000000000 / rate.toNat) / 1000000000 ≤ n :=
    mul_div_div_le rate.toNat n (by decide)
  have hleast : n ≤ rate.toNat * (n * 1000000000 / rate.toNat) / 1000000000 + 1 :=
    le_mul_div_div_add_one n hpos hrate
  rw [frameCount, hd]
  -- The least count of one frame is no more than `n`, so it does not get into the way of the bound.
  omega

theorem samplesFor?_period (build : Build) (hpos : 1 ≤ rate.toNat) (hrate : rate.toNat ≤ 1000000000)
    (hchannels : 1 ≤ channels.toNat) (hn : 1 ≤ n) (hfits : n * 1000000000 < 2 ^ 64)
    (hsamples : n * channels.toNat < 2 ^ 64) :
    ∃ d m, (Pacer.new rate channels).period? build (UInt64.ofNat (n * channels.toNat)) = some d ∧
      samplesFor? rate channels.toNat d = some m ∧
      max 1 (n - 1) * channels.toNat ≤ m ∧ m ≤ n * channels.toNat := by
  obtain ⟨d, hperiod, hd⟩ := period?_frames build hpos hchannels hfits hsamples
  obtain ⟨hleast, hmost⟩ := frameCount_of_nanos_eq hpos hrate hn hd
  have hle := Nat.mul_le_mul_right channels.toNat hmost
  refine ⟨d, _, hperiod, samplesFor?_of_isCountable ⟨?_, Nat.lt_of_le_of_lt hle hsamples⟩,
    Nat.mul_le_mul_right _ hleast, hle⟩
  -- There are no more frames than `n`, and these were few enough for a product with 10^9.
  omega

end Period

/-! ## Both conversions -/

/-- The number of samples in a span of time is the frames that end within it, and at least one, times
the channels, whenever the frames and the samples can be counted in 64 bits. Otherwise there is none,
and a peer that would need it is refused with the code for an invalid argument. Made in words, the
count is the same, so that no word is too short on the way. A longer span never has fewer samples. And
up to 10^9 frames in a second, whole frames whose product with 10^9 fits into a word have a period in
every build, and the samples in it are those of these frames, or of one frame fewer, but of one at
least. -/
theorem conversions_agree (rate : UInt32) (channels : UInt64) :
    (∀ d, samplesFor? rate channels.toNat d =
      if IsCountable rate channels d then some (frameCount rate d * channels.toNat) else none) ∧
    (∀ (site : Site) c k config, site.state.contexts.get? c = some k →
      config.frameEncoding.rate = rate → config.frameEncoding.channelCount = channels.toNat →
      ¬ IsCountable rate channels config.span →
      engine (.peerOpen c config) site = (.error .invalidArgument, site)) ∧
    (∀ d, (countInWords? rate channels d).map UInt64.toNat = samplesFor? rate channels.toNat d) ∧
    (∀ d d', d.nanos ≤ d'.nanos → ∀ n', samplesFor? rate channels.toNat d' = some n' →
      ∃ n, samplesFor? rate channels.toNat d = some n ∧ n ≤ n') ∧
    (1 ≤ rate.toNat → rate.toNat ≤ 1000000000 → 1 ≤ channels.toNat →
      ∀ build n, 1 ≤ n → n * 1000000000 < 2 ^ 64 → n * channels.toNat < 2 ^ 64 →
      ∃ d m, (Pacer.new rate channels).period? build (UInt64.ofNat (n * channels.toNat)) = some d ∧
        samplesFor? rate channels.toNat d = some m ∧
        max 1 (n - 1) * channels.toNat ≤ m ∧ m ≤ n * channels.toNat) := by
  refine ⟨samplesFor?_eq rate channels, ?_, countInWords?_eq rate channels, ?_, ?_⟩
  · intro site c k config hk hrate hchannels h
    exact engine_peerOpen_of_not_isCountable hk hrate hchannels h
  · intro d d' hd n' h
    exact samplesFor?_mono hd h
  · intro hpos hrate hchannels build n hn hfits hsamples
    exact samplesFor?_period build hpos hrate hchannels hn hfits hsamples

/-- Stereo frames at 44.1 kHz: in the period of two frames only one is counted, and a packet of thirty
million years has more samples than there are numbers for them. -/
theorem conversions_agree_stereo :
    let config : PeerConfig := .sender
      { frameEncoding := .stereo 44100, packetLength := .ofMillis 1000000000000000000 }
    let site : Site := {
      machine := { host := .selfContained, random := fun _ => 7 }
      state := { contexts := Table.empty.insert ⟨1⟩ { packetSize := 2048 } } }
    samplesFor? 44100 2 (.ofMillis 10) = some 882 ∧
      ¬ IsCountable 44100 2 config.span ∧
      engine (.peerOpen ⟨1⟩ config) site = (.error .invalidArgument, site) ∧
      (∃ n, samplesFor? 44100 2 (.ofMillis 5) = some n ∧ n ≤ 882) ∧
      ((Pacer.new 44100 2).period? .checked 4).bind (samplesFor? 44100 2) = some 2 ∧
      (∃ d m, (Pacer.new 44100 2).period? .checked 4 = some d ∧ samplesFor? 44100 2 d = some m ∧
        2 ≤ m ∧ m ≤ 4) := by
  intro config site
  obtain ⟨hcount, hrefused, -, hmono, hback⟩ := conversions_agree 44100 2
  have hten : samplesFor? 44100 2 (.ofMillis 10) = some 882 :=
    (hcount (.ofMillis 10)).trans (if_pos (by decide))
  have hnot : ¬ IsCountable 44100 2 config.span := by decide
  exact ⟨hten, hnot, hrefused site ⟨1⟩ { packetSize := 2048 } config rfl rfl rfl hnot,
    hmono (.ofMillis 5) (.ofMillis 10) (by decide) 882 hten, by decide,
    hback (by decide) (by decide) (by decide) .checked 2 (by decide) (by decide) (by decide)⟩

/-- At four frames in a nanosecond, the period of seven frames is cut to one nanosecond, and more than
one frame is lost. -/
example : ((Pacer.new 4000000000 1).period? .checked 7).bind (samplesFor? 4000000000 1) = some 4 := by
  decide

end Loopback
end AudioLink
