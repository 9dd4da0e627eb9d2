import AudioLink.Config.Session

/-
Configurations are read as they are written.

Every field of a record is written under its own name and read by it, so a record is read back as
soon as its fields are, in every format and wherever the fields stand in the table. Spans of time are
written in whole milliseconds, so nothing is lost of a span that is a whole number of them.
-/
set_option autoImplicit false

namespace AudioLink

/-! ## Spans of time -/

namespace Duration

/-- A whole number of milliseconds that is less than `bound`. -/
def IsWholeBelow (bound : Nat) (t : Duration) : Prop :=
  t.nanos % 1000000 = 0 ∧ t.wholeMillis < bound

instance (bound : Nat) (t : Duration) : Decidable (t.IsWholeBelow bound) :=
  inferInstanceAs (Decidable (_ ∧ _))

/-- A span that fits a bound fits a larger one. -/
theorem IsWholeBelow.mono {bound bound' : Nat} {t : Duration} (ht : t.IsWholeBelow bound)
    (hle : bound ≤ bound') : t.IsWholeBelow bound' :=
  ⟨ht.1, Nat.lt_of_lt_of_le ht.2 hle⟩

/-- The count of milliseconds says all of a whole number of them. -/
theorem ofMillis_millis {t : Duration} (ht : t.IsWholeBelow UInt64.size) : ofMillis t.millis = t := by
  obtain ⟨hwhole, hlt⟩ := ht
  obtain ⟨nanos, hnanos⟩ := t
  have hcount : (UInt64.ofNat (nanos / 1000000)).toNat = nanos / 1000000 :=
    UInt64.toNat_ofNat_of_lt hlt
  have hmul : nanos / 1000000 * 1000000 = nanos := by
    have hwhole : nanos % 1000000 = 0 := hwhole
    omega
  simp [ofMillis, millis, wholeMillis, hcount, hmul]

end Duration

namespace Form

/-- A span of whole milliseconds is read as it is written, up to the size of a word. -/
theorem read?_write_duration (d : Dialect) {t : Duration} (ht : t.IsWholeBelow UInt64.size) :
    read? d (write t) = some t := by
  have hcount : (read? d (write t.millis) : Option UInt64) = some t.millis :=
    read?_write_uint64 d t.millis
  have hread : (read? d (write t) : Option Duration) =
      (read? d (write t.millis)).map Duration.ofMillis := rfl
  rw [hread, hcount, Option.map_some, Duration.ofMillis_millis ht]

/-! ## Fields -/

section Fields

variable {α β : Type} [Form α] [Form β] {d : Dialect} {name : String}

/-- A field that is given is read, and its default plays no part. -/
theorem field?_of_given {given : String → Option Value} {v : Value} {a : α}
    (hgiven : given name = some v) (hread : read? d v = some a) (default : α) :
    field? d given name default = some a := by
  rw [field?, hgiven]
  exact hread

/-- A field is read by its name, from what is written under it. -/
@[simp] theorem field?_entry_self {a : α} (hread : read? d (write a) = some a) (default : α)
    (rest : List (String × Value)) :
    field? d (Value.lookup · (entry name a :: rest)) name default = some a := by
  have hlookup : Value.lookup name (entry name a :: rest) = some (write a) := by
    simp [Value.lookup, entry]
  exact field?_of_given hlookup hread default

/-- A field of another name is passed over. -/
@[simp] theorem field?_entry_of_ne {other : String} (hother : other ≠ name) (b : β) (default : α)
    (rest : List (String × Value)) : field? d (Value.lookup · (entry other b :: rest)) name default =
      field? d (Value.lookup · rest) name default := by
  have hlookup : Value.lookup name (entry other b :: rest) = Value.lookup name rest := by
    simp [Value.lookup, entry, hother]
  rw [field?, hlookup, field?]

/-- A field that is not given has its default. -/
@[simp] theorem field?_nil (default : α) :
    field? d (Value.lookup · []) name default = some default := rfl

/-- A value that is not missing is read as one that is there. -/
theorem read?_some {v : Value} {a : α} (hv : v ≠ .null) (hread : read? d v = some a) :
    read? d v = some (some a) := by
  have hsome : (read? d v : Option (Option α)) = (read? d v).map some := by
    cases v with
    | null => exact absurd rfl hv
    | _ => rfl
  rw [hsome, hread, Option.map_some]

/-- A field that may be left out is read as it is written, there or not. -/
theorem field?_entryIfSome {o : Option α} {rest : List (String × Value)}
    (ho : ∀ a ∈ o, write a ≠ .null ∧ read? d (write a) = some a)
    (hrest : field? d (Value.lookup · rest) name (none : Option α) = some none) :
    field? d (Value.lookup · (entryIfSome name o ++ rest)) name none = some o := by
  cases o with
  | none => exact hrest
  | some a =>
    obtain ⟨hnull, hread⟩ := ho a rfl
    have hlookup : Value.lookup name (entryIfSome name (some a) ++ rest) = some (write a) := by
      simp [Value.lookup, entryIfSome, entry]
    exact field?_of_given hlookup (read?_some hnull hread) none

/-- An optional entry in front does not hide a field of another name. -/
@[simp] theorem field?_entryIfSome_of_ne {other : String} (hother : other ≠ name) (o : Option β)
    (default : α) (rest : List (String × Value)) :
    field? d (Value.lookup · (entryIfSome other o ++ rest)) name default =
      field? d (Value.lookup · rest) name default := by
  cases o with
  | none => rfl
  | some b => exact field?_entry_of_ne hother b default rest

/-- An optional entry has its name or none, so names stay unrepeated. -/
theorem sublist_entryIfSome (name : String) (o : Option α) :
    ((entryIfSome name o).map Prod.fst).Sublist [name] := by
  cases o with
  | none => exact List.nil_sublist _
  | some a => exact List.Sublist.refl _

/-- The names of fields of which the second one may be left out. -/
theorem sublist_map_fst (x : String × Value) (name : String) (o : Option α)
    (rest : List (String × Value)) : ((x :: entryIfSome name o ++ rest).map Prod.fst).Sublist
      (x.1 :: name :: rest.map Prod.fst) := by
  rw [List.cons_append, List.map_cons, List.map_append]
  exact ((sublist_entryIfSome name o).append (List.Sublist.refl _)).cons_cons x.1

theorem forall_mem_entryIfSome {o : Option α} {p : String × Value → Prop}
    (ho : ∀ a ∈ o, p (entry name a)) : ∀ x ∈ entryIfSome name o, p x := by
  cases o with
  | none => exact List.forall_mem_nil _
  | some a => simpa [entryIfSome] using ho

end Fields

/-! ## Records -/

section Records

variable {d : Dialect} {v : Value} {given : String → Option Value}

/-! A record is read if its fields are. -/

theorem bind_of_eq_some {α β : Type} {o : Option α} {a : α} {next : α → Option β}
    {result : Option β} (ha : o = some a) (hnext : next a = result) : o >>= next = result := by
  rw [ha, ← hnext]
  rfl

/-- An encoding is read from its four fields. -/
theorem read?_media {e : MediaEncoding}
    (hgiven : given? d ["rate", "format", "channels", "tracks"] v = some given)
    (hrate : field? d given "rate" 0 = some e.rate)
    (hformat : field? d given "format" .pcmFloat32 = some e.format)
    (hchannels : field? d given "channels" .stereo = some e.channels)
    (htracks : field? d given "tracks" 0 = some e.tracks) : read? d v = some e := by
  simp only [read?, hgiven, hrate, hformat, hchannels, htracks, Option.bind_eq_bind,
    Option.bind_some, Option.pure_def]

/-- A context is read from its two fields. -/
theorem read?_context {c : ContextConfig}
    (hgiven : given? d ["max_packet_size", "max_frame_size"] v = some given)
    (hpacket : field? d given "max_packet_size" 0 = some c.maxPacketSize)
    (hframe : field? d given "max_frame_size" 0 = some c.maxFrameSize) : read? d v = some c := by
  simp only [read?, hgiven, hpacket, hframe, Option.bind_eq_bind, Option.bind_some, Option.pure_def]

/-- A sender is read from its fields. -/
theorem read?_sender {c : SenderConfig}
    (hgiven : given? d SenderConfig.fieldNames v = some given)
    (hframe : field? d given "frame_encoding" {} = some c.frameEncoding)
    (hpacket : field? d given "packet_encoding" none = some c.packetEncoding)
    (hlength : field? d given "packet_length_ms" .zero = some c.packetLength)
    (hinterleaving : field? d given "packet_interleaving" false = some c.packetInterleaving)
    (hfec : field? d given "fec_encoding" .default = some c.fecEncoding)
    (hsource : field? d given "fec_block_source_packets" 0 = some c.fecBlockSourcePackets)
    (hrepair : field? d given "fec_block_repair_packets" 0 = some c.fecBlockRepairPackets)
    (hclock : field? d given "clock_source" .external = some c.clockSource)
    (htuner : field? d given "latency_tuner_backend" .default = some c.latencyTunerBackend)
    (htuning : field? d given "latency_tuner_profile" .default = some c.latencyTunerProfile)
    (hresampler : field? d given "resampler_backend" .default = some c.resamplerBackend)
    (hquality : field? d given "resampler_profile" .default = some c.resamplerProfile)
    (hlatency : field? d given "target_latency_ms" .zero = some c.targetLatency)
    (htolerance : field? d given "latency_tolerance_ms" .zero = some c.latencyTolerance) :
    read? d v = some c := by
  -- One after the other: simplifying what is behind all these at once is too much.
  refine bind_of_eq_some hgiven ?_
  refine bind_of_eq_some hframe <| bind_of_eq_some hpacket <| bind_of_eq_some hlength ?_
  refine bind_of_eq_some hinterleaving <| bind_of_eq_some hfec <| bind_of_eq_some hsource ?_
  refine bind_of_eq_some hrepair <| bind_of_eq_some hclock <| bind_of_eq_some htuner ?_
  refine bind_of_eq_some htuning <| bind_of_eq_some hresampler <| bind_of_eq_some hquality ?_
  exact bind_of_eq_some hlatency <| bind_of_eq_some htolerance rfl

/-- A receiver is read from its fields. -/
theorem read?_receiver {c : ReceiverConfig}
    (hgiven : given? d ReceiverConfig.fieldNames v = some given)
    (hframe : field? d given "frame_encoding" {} = some c.frameEncoding)
    (hclock : field? d given "clock_source" .external = some c.clockSource)
    (htuner : field? d given "latency_tuner_backend" .default = some c.latencyTunerBackend)
    (htuning : field? d given "latency_tuner_profile" .default = some c.latencyTunerProfile)
    (hresampler : field? d given "resampler_backend" .default = some c.resamplerBackend)
    (hquality : field? d given "resampler_profile" .default = some c.resamplerProfile)
    (hlatency : field? d given "target_latency_ms" .zero = some c.targetLatency)
    (htolerance : field? d given "latency_tolerance_ms" .zero = some c.latencyTolerance)
    (hplayback : field? d given "no_playback_timeout_ms" .zero = some c.noPlaybackTimeout)
    (hchoppy : field? d given "choppy_playback_timeout_ms" .zero = some c.choppyPlaybackTimeout) :
    read? d v = some c := by
  refine bind_of_eq_some hgiven ?_
  refine bind_of_eq_some hframe <| bind_of_eq_some hclock <| bind_of_eq_some htuner ?_
  refine bind_of_eq_some htuning <| bind_of_eq_some hresampler <| bind_of_eq_some hquality ?_
  refine bind_of_eq_some hlatency <| bind_of_eq_some htolerance ?_
  exact bind_of_eq_some hplayback <| bind_of_eq_some hchoppy rfl

/-- The options of the log are read from their three fields. -/
theorem read?_log {c : LogConfig} (hgiven : given? d ["level", "filter", "ansi"] v = some given)
    (hlevel : field? d given "level" .error = some c.level)
    (hfilter : field? d given "filter" none = some c.filter)
    (hansi : field? d given "ansi" false = some c.ansi) : read? d v = some c := by
  simp only [read?, hgiven, hlevel, hfilter, hansi, Option.bind_eq_bind, Option.bind_some,
    Option.pure_def]

/-- A configuration is read from its four parts. -/
theorem read?_session {c : SessionConfig}
    (hgiven : given? d ["context", "sender", "receiver", "log"] v = some given)
    (hcontext : field? d given "context" {} = some c.context)
    (hsender : field? d given "sender" {} = some c.sender)
    (hreceiver : field? d given "receiver" {} = some c.receiver)
    (hlog : field? d given "log" {} = some c.log) : read? d v = some c := by
  simp only [read?, hgiven, hcontext, hsender, hreceiver, hlog, Option.bind_eq_bind,
    Option.bind_some, Option.pure_def]

/-! Only what is given for its fields matters. -/

/-- A sender is read by its fields only, so two values with the same fields give the same. -/
theorem read?_sender_congr {v' : Value}
    (hgiven : given? d SenderConfig.fieldNames v = given? d SenderConfig.fieldNames v') :
    (read? d v : Option SenderConfig) = read? d v' := by
  simp only [read?, hgiven]

/-- A receiver is read by its fields only. -/
theorem read?_receiver_congr {v' : Value}
    (hgiven : given? d ReceiverConfig.fieldNames v = given? d ReceiverConfig.fieldNames v') :
    (read? d v : Option ReceiverConfig) = read? d v' := by
  simp only [read?, hgiven]

end Records

/-! ## What was written is read -/

variable (d : Dialect)

/-- An encoding is read as it is written. -/
theorem read?_write_media (e : MediaEncoding) : read? d (write e) = some e := by
  apply read?_media rfl
  · simp
  · simp
  · simp
  · simp

/-- A context is read as it is written. -/
theorem read?_write_context (c : ContextConfig) : read? d (write c) = some c := by
  apply read?_context rfl
  · simp
  · simp

/-- A packet encoding is read as it is written, whichever of the two it is. -/
theorem read?_write_packet (e : PacketEncoding) : read? d (write e) = some e := by
  cases e with
  | avpL16Mono => rfl
  | avpL16Stereo => rfl
  | registered id =>
    have hread : (read? d (write id)).map PacketEncoding.registered = some (.registered id) := by
      rw [read?_write_int32, Option.map_some]
    exact hread

/-- What is written for a packet encoding is not taken for an absent one. -/
theorem write_packet_ne_null (e : PacketEncoding) : write e ≠ .null := by
  cases e with
  | _ => exact nofun

/-- The options of the log are read as they are written, with a filter or without. -/
theorem read?_write_log (c : LogConfig) : read? d (write c) = some c := by
  have hfilter : ∀ f ∈ c.filter, write f ≠ .null ∧ read? d (write f) = some f :=
    fun f _ => ⟨nofun, read?_write_string d f⟩
  apply read?_log rfl
  · simp
  · simp [field?_entryIfSome hfilter]
  · simp

end Form

/-! ## Records with spans of time -/

/-- The spans of time in the configuration of a sender. -/
def SenderConfig.durations (c : SenderConfig) : List Duration :=
  [c.packetLength, c.targetLatency, c.latencyTolerance]

/-- The spans of time in the configuration of a receiver. -/
def ReceiverConfig.durations (c : ReceiverConfig) : List Duration :=
  [c.targetLatency, c.latencyTolerance, c.noPlaybackTimeout, c.choppyPlaybackTimeout]

/-- The spans of time in the configuration of a session. -/
def SessionConfig.durations (c : SessionConfig) : List Duration :=
  c.sender.durations ++ c.receiver.durations

namespace Form

variable (d : Dialect)

/-- A receiver with whole spans is read as it is written. -/
theorem read?_write_receiver {c : ReceiverConfig}
    (hwhole : ∀ t ∈ c.durations, t.IsWholeBelow UInt64.size) : read? d (write c) = some c := by
  simp only [ReceiverConfig.durations, List.forall_mem_cons] at hwhole
  obtain ⟨hlatency, htolerance, hplayback, hchoppy, -⟩ := hwhole
  apply read?_receiver rfl
  · simp [read?_write_media]
  · simp
  · simp
  · simp
  · simp
  · simp
  · simp [read?_write_duration d hlatency]
  · simp [read?_write_duration d htolerance]
  · simp [read?_write_duration d hplayback]
  · simp [read?_write_duration d hchoppy]

/-- A sender with whole spans is read as it is written. -/
theorem read?_write_sender {c : SenderConfig}
    (hwhole : ∀ t ∈ c.durations, t.IsWholeBelow UInt64.size) : read? d (write c) = some c := by
  simp only [SenderConfig.durations, List.forall_mem_cons] at hwhole
  obtain ⟨hlength, hlatency, htolerance, -⟩ := hwhole
  have hpacket : ∀ e ∈ c.packetEncoding, write e ≠ .null ∧ read? d (write e) = some e :=
    fun e _ => ⟨write_packet_ne_null e, read?_write_packet d e⟩
  apply read?_sender rfl
  · simp [read?_write_media]
  · simp [field?_entryIfSome hpacket]
  · simp [read?_write_duration d hlength]
  · simp
  · simp
  · simp
  · simp
  · simp
  · simp
  · simp
  · simp
  · simp
  · simp [read?_write_duration d hlatency]
  · simp [read?_write_duration d htolerance]

/-- In every format, a configuration is read as it is written. -/
theorem read?_write_session {c : SessionConfig}
    (hwhole : ∀ t ∈ c.durations, t.IsWholeBelow UInt64.size) : read? d (write c) = some c := by
  have hsender := read?_write_sender d (c := c.sender) fun t ht =>
    hwhole t (List.mem_append_left _ ht)
  have hreceiver := read?_write_receiver d (c := c.receiver) fun t ht =>
    hwhole t (List.mem_append_right _ ht)
  apply read?_session rfl
  · simp [read?_write_context]
  · simp [hsender]
  · simp [hreceiver]
  · simp [read?_write_log]

end Form
end AudioLink
