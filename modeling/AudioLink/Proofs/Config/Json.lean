import AudioLink.Config.Interface
import AudioLink.Endpoint.Form
import AudioLink.Proofs.Config.Forms
import AudioLink.Proofs.Data.Json

/-
The types of the library survive JSON.

Everything that is written has a text: numbers are within 64 bits, the names of a record differ, and
records nest three deep. What is lost on the way is the part of a span of time below a millisecond
and the count of milliseconds beyond 64 bits, and a value that was read has neither, whatever it was
read from. So one reading settles what a value is, and writing and reading again change nothing.
-/
set_option autoImplicit false

namespace AudioLink

open Form

/-! ## The types -/

/-- The types that stand in structured data. -/
inductive DataType where
  | protocol
  | interface
  | slot
  | endpoint
  | sampleFormat
  | channelLayout
  | mediaEncoding
  | packetEncoding
  | fecEncoding
  | clockSource
  | resamplerBackend
  | resamplerProfile
  | latencyTunerBackend
  | latencyTunerProfile
  | contextConfig
  | senderConfig
  | receiverConfig
  | interfaceConfig
  | logLevel
  | logConfig
  | sessionConfig

namespace DataType

/-- The values of a type. -/
def Carrier : DataType → Type
  | protocol => Protocol
  | interface => Interface
  | slot => Slot
  | endpoint => Endpoint
  | sampleFormat => SampleFormat
  | channelLayout => ChannelLayout
  | mediaEncoding => MediaEncoding
  | packetEncoding => PacketEncoding
  | fecEncoding => FecEncoding
  | clockSource => ClockSource
  | resamplerBackend => ResamplerBackend
  | resamplerProfile => ResamplerProfile
  | latencyTunerBackend => LatencyTunerBackend
  | latencyTunerProfile => LatencyTunerProfile
  | contextConfig => ContextConfig
  | senderConfig => SenderConfig
  | receiverConfig => ReceiverConfig
  | interfaceConfig => InterfaceConfig
  | logLevel => LogLevel
  | logConfig => LogConfig
  | sessionConfig => SessionConfig

instance : (t : DataType) → Form t.Carrier
  | protocol => inferInstanceAs (Form Protocol)
  | interface => inferInstanceAs (Form Interface)
  | slot => inferInstanceAs (Form Slot)
  | endpoint => inferInstanceAs (Form Endpoint)
  | sampleFormat => inferInstanceAs (Form SampleFormat)
  | channelLayout => inferInstanceAs (Form ChannelLayout)
  | mediaEncoding => inferInstanceAs (Form MediaEncoding)
  | packetEncoding => inferInstanceAs (Form PacketEncoding)
  | fecEncoding => inferInstanceAs (Form FecEncoding)
  | clockSource => inferInstanceAs (Form ClockSource)
  | resamplerBackend => inferInstanceAs (Form ResamplerBackend)
  | resamplerProfile => inferInstanceAs (Form ResamplerProfile)
  | latencyTunerBackend => inferInstanceAs (Form LatencyTunerBackend)
  | latencyTunerProfile => inferInstanceAs (Form LatencyTunerProfile)
  | contextConfig => inferInstanceAs (Form ContextConfig)
  | senderConfig => inferInstanceAs (Form SenderConfig)
  | receiverConfig => inferInstanceAs (Form ReceiverConfig)
  | interfaceConfig => inferInstanceAs (Form InterfaceConfig)
  | logLevel => inferInstanceAs (Form LogLevel)
  | logConfig => inferInstanceAs (Form LogConfig)
  | sessionConfig => inferInstanceAs (Form SessionConfig)

/-- The spans of time in a value. -/
def spans : (t : DataType) → t.Carrier → List Duration
  | senderConfig, c => SenderConfig.durations c
  | receiverConfig, c => ReceiverConfig.durations c
  | sessionConfig, c => SessionConfig.durations c
  | _, _ => []

/-- The JSON text of a value. -/
def toJson (t : DataType) (a : t.Carrier) : String := Json.write (write a)

/-- Reads a value from a JSON text. -/
def ofJson? (t : DataType) (text : String) : Option t.Carrier :=
  (Json.parse? text).bind (read? .json)

end DataType

/-! ## Everything has a text -/

namespace Json

section Fits

variable {depth : Nat}

theorem fits_uint32 (n : UInt32) : Fits depth (Form.write n) := by
  have hlt := n.toNat_lt
  have hmin : Int64.minValue.toInt = -9223372036854775808 := by decide
  refine .int depth ?_ ?_
  · omega
  · have hsize : UInt64.size = 18446744073709551616 := rfl
    omega

theorem fits_int32 (n : Int32) : Fits depth (Form.write n) := by
  have hlt : n.toInt < 2147483648 := n.toInt_lt
  have hle : -2147483648 ≤ n.toInt := n.le_toInt
  have hmin : Int64.minValue.toInt = -9223372036854775808 := by decide
  refine .int depth ?_ ?_
  · omega
  · have hsize : UInt64.size = 18446744073709551616 := rfl
    omega

/-- Of any span of time, 64 bits of its count of milliseconds are written. -/
theorem fits_duration (t : Duration) : Fits depth (Form.write t) := by
  have hlt := t.millis.toNat_lt
  have hmin : Int64.minValue.toInt = -9223372036854775808 := by decide
  refine .int depth ?_ ?_
  · omega
  · have hsize : UInt64.size = 18446744073709551616 := rfl
    omega

/-- A label is a text, whichever it is. -/
theorem fits_labelled {α : Type} [Labelled α] (a : α) : Fits depth (Form.write a) := .text depth _

/-- An object fits if its names are among some that differ, and its values fit. -/
theorem fits_table {fields : List (String × Value)} (names : List String)
    (hnames : (fields.map Prod.fst).Sublist names) (hnodup : names.Nodup)
    (hvalues : ∀ x ∈ fields, Fits depth x.2) : Fits (depth + 1) (.table fields) :=
  .table (hnodup.sublist hnames) hvalues

theorem fits_media (e : MediaEncoding) : Fits (depth + 1) (Form.write e) := by
  refine fits_table ["rate", "format", "channels", "tracks"] (List.Sublist.refl _) (by decide) ?_
  simp only [List.forall_mem_cons, entry]
  exact ⟨fits_uint32 _, fits_labelled _, fits_labelled _, fits_uint32 _, List.forall_mem_nil _⟩

theorem fits_packet (e : PacketEncoding) : Fits (depth + 1) (Form.write e) := by
  cases e with
  | avpL16Mono => exact .text _ _
  | avpL16Stereo => exact .text _ _
  | registered id =>
    refine fits_table ["registered"] (List.Sublist.refl _) (by decide) ?_
    simp only [List.forall_mem_cons, entry]
    exact ⟨fits_int32 _, List.forall_mem_nil _⟩

theorem fits_endpoint (e : Endpoint) : Fits (depth + 1) (Form.write e) := by
  have hprotocol : Fits depth (Form.write e.protocol) := by
    cases e.protocol with
    | none => exact .null depth
    | some protocol => exact fits_labelled protocol
  refine fits_table ["protocol", "host", "port", "resource"] (List.Sublist.refl _) (by decide) ?_
  simp only [List.forall_mem_cons, entry]
  exact ⟨hprotocol, .text _ _, fits_int32 _, .text _ _, List.forall_mem_nil _⟩

theorem fits_context (c : ContextConfig) : Fits (depth + 1) (Form.write c) := by
  refine fits_table ["max_packet_size", "max_frame_size"] (List.Sublist.refl _) (by decide) ?_
  simp only [List.forall_mem_cons, entry]
  exact ⟨fits_uint32 _, fits_uint32 _, List.forall_mem_nil _⟩

theorem fits_interface (c : InterfaceConfig) : Fits (depth + 1) (Form.write c) := by
  refine fits_table ["outgoing_address", "multicast_group", "reuse_address"]
    (List.Sublist.refl _) (by decide) ?_
  simp only [List.forall_mem_cons, entry]
  exact ⟨.text _ _, .text _ _, .bool _ _, List.forall_mem_nil _⟩

theorem fits_log (c : LogConfig) : Fits (depth + 1) (Form.write c) := by
  refine fits_table ["level", "filter", "ansi"] ?_ (by decide) ?_
  · have hnames := (sublist_entryIfSome "filter" c.filter).append (List.Sublist.refl ["ansi"])
    rw [List.cons_append, List.map_cons, List.map_append]
    exact hnames.cons_cons "level"
  · have hfilter : ∀ x ∈ entryIfSome "filter" c.filter, Fits depth x.2 :=
      forall_mem_entryIfSome fun _ _ => .text _ _
    simp only [List.cons_append, List.forall_mem_cons, List.forall_mem_append, entry]
    exact ⟨fits_labelled _, hfilter, .bool _ _, List.forall_mem_nil _⟩

/-- A sender is one level deeper than the encodings in it. -/
theorem fits_sender (c : SenderConfig) : Fits (depth + 2) (Form.write c) := by
  refine fits_table SenderConfig.fieldNames ?_ (by decide) ?_
  · have hnames := (sublist_entryIfSome "packet_encoding" c.packetEncoding).append
      (List.Sublist.refl (SenderConfig.fieldNames.drop 2))
    rw [List.cons_append, List.map_cons, List.map_append]
    exact hnames.cons_cons "frame_encoding"
  · have hpacket : ∀ x ∈ entryIfSome "packet_encoding" c.packetEncoding, Fits (depth + 1) x.2 :=
      forall_mem_entryIfSome fun e _ => fits_packet e
    simp only [List.cons_append, List.forall_mem_cons, List.forall_mem_append, entry]
    exact ⟨fits_media _, hpacket, fits_duration _, .bool _ _, fits_labelled _, fits_uint32 _,
      fits_uint32 _, fits_labelled _, fits_labelled _, fits_labelled _, fits_labelled _,
      fits_labelled _, fits_duration _, fits_duration _, List.forall_mem_nil _⟩

theorem fits_receiver (c : ReceiverConfig) : Fits (depth + 2) (Form.write c) := by
  refine fits_table ReceiverConfig.fieldNames (List.Sublist.refl _) (by decide) ?_
  simp only [List.forall_mem_cons, entry]
  exact ⟨fits_media _, fits_labelled _, fits_labelled _, fits_labelled _, fits_labelled _,
    fits_labelled _, fits_duration _, fits_duration _, fits_duration _, fits_duration _,
    List.forall_mem_nil _⟩

/-- A whole configuration is nested three levels deep. -/
theorem fits_session (c : SessionConfig) : Fits (depth + 3) (Form.write c) := by
  refine fits_table ["context", "sender", "receiver", "log"] (List.Sublist.refl _) (by decide) ?_
  simp only [List.forall_mem_cons, entry]
  exact ⟨fits_context _, fits_sender _, fits_receiver _, fits_log _, List.forall_mem_nil _⟩

end Fits

/-- What is written of any value of any type has a text. -/
theorem fits_write (t : DataType) (a : t.Carrier) : Fits maxNesting (Form.write a) := by
  cases t with
  | protocol => exact fits_labelled (α := Protocol) a
  | interface => exact fits_labelled (α := Interface) a
  | slot => exact fits_uint32 (Slot.index a)
  | endpoint => exact fits_endpoint a
  | sampleFormat => exact fits_labelled (α := SampleFormat) a
  | channelLayout => exact fits_labelled (α := ChannelLayout) a
  | mediaEncoding => exact fits_media a
  | packetEncoding => exact fits_packet a
  | fecEncoding => exact fits_labelled (α := FecEncoding) a
  | clockSource => exact fits_labelled (α := ClockSource) a
  | resamplerBackend => exact fits_labelled (α := ResamplerBackend) a
  | resamplerProfile => exact fits_labelled (α := ResamplerProfile) a
  | latencyTunerBackend => exact fits_labelled (α := LatencyTunerBackend) a
  | latencyTunerProfile => exact fits_labelled (α := LatencyTunerProfile) a
  | contextConfig => exact fits_context a
  | senderConfig => exact fits_sender a
  | receiverConfig => exact fits_receiver a
  | interfaceConfig => exact fits_interface a
  | logLevel => exact fits_labelled (α := LogLevel) a
  | logConfig => exact fits_log a
  | sessionConfig => exact fits_session a

end Json

/-! ## What was written is read -/

namespace Form

variable {d : Dialect}

/-- An interface is read from its three fields. -/
theorem read?_interface {v : Value} {given : String → Option Value} {c : InterfaceConfig}
    (hgiven : given? d ["outgoing_address", "multicast_group", "reuse_address"] v = some given)
    (haddress : field? d given "outgoing_address" "" = some c.outgoingAddress)
    (hgroup : field? d given "multicast_group" "" = some c.multicastGroup)
    (hreuse : field? d given "reuse_address" false = some c.reuseAddress) : read? d v = some c := by
  simp only [read?, hgiven, haddress, hgroup, hreuse, Option.bind_eq_bind, Option.bind_some,
    Option.pure_def]

/-- An endpoint is read from its four fields. -/
theorem read?_endpoint {v : Value} {given : String → Option Value} {e : Endpoint}
    (hgiven : given? d ["protocol", "host", "port", "resource"] v = some given)
    (hprotocol : field? d given "protocol" none = some e.protocol)
    (hhost : field? d given "host" "" = some e.host)
    (hport : field? d given "port" Endpoint.portUnspecified = some e.port)
    (hresource : field? d given "resource" "" = some e.resource) : read? d v = some e := by
  simp only [read?, hgiven, hprotocol, hhost, hport, hresource, Option.bind_eq_bind,
    Option.bind_some, Option.pure_def]

/-- The options of an interface are read as they are written. -/
theorem read?_write_interface (d : Dialect) (c : InterfaceConfig) : read? d (write c) = some c := by
  apply read?_interface rfl
  · simp
  · simp
  · simp

/-- An endpoint is read as it is written, with whatever is absent in it. -/
theorem read?_write_endpoint (d : Dialect) (e : Endpoint) : read? d (write e) = some e := by
  have hprotocol : read? d (write e.protocol) = some e.protocol := by
    cases e.protocol with
    | none => rfl
    | some protocol => exact read?_some nofun (read?_write_labelled d protocol)
  apply read?_endpoint rfl
  · simp [hprotocol]
  · simp
  · simp
  · simp

/-- A slot is read as the number it is written as. -/
theorem read?_write_slot (d : Dialect) (slot : Slot) : read? d (write slot) = some slot := by
  have hindex : (read? d (write slot.index)).map Slot.mk = some slot := by
    rw [read?_write_uint32, Option.map_some]
  exact hindex

/-- A value of any type is read as it is written, if its spans of time are whole numbers of
milliseconds. -/
theorem read?_write_dataType (d : Dialect) (t : DataType) {a : t.Carrier}
    (hwhole : ∀ s ∈ t.spans a, s.IsWholeBelow UInt64.size) : read? d (write a) = some a := by
  cases t with
  | protocol => exact read?_write_labelled (α := Protocol) d a
  | interface => exact read?_write_labelled (α := Interface) d a
  | slot => exact read?_write_slot d a
  | endpoint => exact read?_write_endpoint d a
  | sampleFormat => exact read?_write_labelled (α := SampleFormat) d a
  | channelLayout => exact read?_write_labelled (α := ChannelLayout) d a
  | mediaEncoding => exact read?_write_media d a
  | packetEncoding => exact read?_write_packet d a
  | fecEncoding => exact read?_write_labelled (α := FecEncoding) d a
  | clockSource => exact read?_write_labelled (α := ClockSource) d a
  | resamplerBackend => exact read?_write_labelled (α := ResamplerBackend) d a
  | resamplerProfile => exact read?_write_labelled (α := ResamplerProfile) d a
  | latencyTunerBackend => exact read?_write_labelled (α := LatencyTunerBackend) d a
  | latencyTunerProfile => exact read?_write_labelled (α := LatencyTunerProfile) d a
  | contextConfig => exact read?_write_context d a
  | senderConfig => exact read?_write_sender d hwhole
  | receiverConfig => exact read?_write_receiver d hwhole
  | interfaceConfig => exact read?_write_interface d a
  | logLevel => exact read?_write_labelled (α := LogLevel) d a
  | logConfig => exact read?_write_log d a
  | sessionConfig => exact read?_write_session d hwhole

/-! ## What was read has whole spans of time -/

/-- A chain of readings that succeeds has succeeded at its first step. -/
theorem exists_of_bind_eq_some {α β : Type} {o : Option α} {next : α → Option β} {b : β}
    (hbind : o >>= next = some b) : ∃ a, o = some a ∧ next a = some b :=
  Option.bind_eq_some_iff.mp hbind

/-- A field has what holds of its default and of everything that is read. -/
theorem of_field?_eq_some {α : Type} [Form α] {p : α → Prop} {given : String → Option Value}
    {name : String} {default a : α} (hread : ∀ v a, read? d v = some a → p a) (hdefault : p default)
    (hfield : field? d given name default = some a) : p a := by
  unfold field? at hfield
  split at hfield
  · exact hread _ a hfield
  · exact Option.some.inj hfield ▸ hdefault

/-- A span that is read is a whole number of milliseconds that fits a word. -/
theorem isWholeBelow_of_read? (v : Value) (t : Duration) (hread : read? d v = some t) :
    t.IsWholeBelow UInt64.size := by
  obtain ⟨n, -, rfl⟩ := Option.map_eq_some_iff.mp hread
  have hlt := n.toNat_lt_size
  exact ⟨Nat.mul_mod_left _ _, by simpa [Duration.wholeMillis, Duration.ofMillis] using hlt⟩

/-- The same of a field, whose default is the zero span. -/
theorem isWholeBelow_of_field? {given : String → Option Value} {name : String} {t : Duration}
    (hfield : field? d given name Duration.zero = some t) : t.IsWholeBelow UInt64.size :=
  of_field?_eq_some isWholeBelow_of_read? (by decide) hfield

/-- Every span of a sender that is read is whole. -/
theorem whole_of_read?_sender (v : Value) (c : SenderConfig) (hread : read? d v = some c) :
    ∀ t ∈ c.durations, t.IsWholeBelow UInt64.size := by
  obtain ⟨given, -, hread⟩ := exists_of_bind_eq_some hread
  obtain ⟨frame, -, hread⟩ := exists_of_bind_eq_some hread
  obtain ⟨packet, -, hread⟩ := exists_of_bind_eq_some hread
  obtain ⟨length, hlength, hread⟩ := exists_of_bind_eq_some hread
  obtain ⟨interleaving, -, hread⟩ := exists_of_bind_eq_some hread
  obtain ⟨fec, -, hread⟩ := exists_of_bind_eq_some hread
  obtain ⟨source, -, hread⟩ := exists_of_bind_eq_some hread
  obtain ⟨repair, -, hread⟩ := exists_of_bind_eq_some hread
  obtain ⟨clock, -, hread⟩ := exists_of_bind_eq_some hread
  obtain ⟨tuner, -, hread⟩ := exists_of_bind_eq_some hread
  obtain ⟨tuning, -, hread⟩ := exists_of_bind_eq_some hread
  obtain ⟨resampler, -, hread⟩ := exists_of_bind_eq_some hread
  obtain ⟨quality, -, hread⟩ := exists_of_bind_eq_some hread
  obtain ⟨latency, hlatency, hread⟩ := exists_of_bind_eq_some hread
  obtain ⟨tolerance, htolerance, hread⟩ := exists_of_bind_eq_some hread
  obtain rfl := Option.some.inj hread
  simp only [SenderConfig.durations, List.forall_mem_cons]
  exact ⟨isWholeBelow_of_field? hlength, isWholeBelow_of_field? hlatency,
    isWholeBelow_of_field? htolerance, List.forall_mem_nil _⟩

/-- Every span of a receiver that is read is whole. -/
theorem whole_of_read?_receiver (v : Value) (c : ReceiverConfig) (hread : read? d v = some c) :
    ∀ t ∈ c.durations, t.IsWholeBelow UInt64.size := by
  obtain ⟨given, -, hread⟩ := exists_of_bind_eq_some hread
  obtain ⟨frame, -, hread⟩ := exists_of_bind_eq_some hread
  obtain ⟨clock, -, hread⟩ := exists_of_bind_eq_some hread
  obtain ⟨tuner, -, hread⟩ := exists_of_bind_eq_some hread
  obtain ⟨tuning, -, hread⟩ := exists_of_bind_eq_some hread
  obtain ⟨resampler, -, hread⟩ := exists_of_bind_eq_some hread
  obtain ⟨quality, -, hread⟩ := exists_of_bind_eq_some hread
  obtain ⟨latency, hlatency, hread⟩ := exists_of_bind_eq_some hread
  obtain ⟨tolerance, htolerance, hread⟩ := exists_of_bind_eq_some hread
  obtain ⟨playback, hplayback, hread⟩ := exists_of_bind_eq_some hread
  obtain ⟨choppy, hchoppy, hread⟩ := exists_of_bind_eq_some hread
  obtain rfl := Option.some.inj hread
  simp only [ReceiverConfig.durations, List.forall_mem_cons]
  exact ⟨isWholeBelow_of_field? hlatency, isWholeBelow_of_field? htolerance,
    isWholeBelow_of_field? hplayback, isWholeBelow_of_field? hchoppy, List.forall_mem_nil _⟩

/-- Every span of a configuration that is read is whole. -/
theorem whole_of_read?_session (v : Value) (c : SessionConfig) (hread : read? d v = some c) :
    ∀ t ∈ c.durations, t.IsWholeBelow UInt64.size := by
  obtain ⟨given, -, hread⟩ := exists_of_bind_eq_some hread
  obtain ⟨context, -, hread⟩ := exists_of_bind_eq_some hread
  obtain ⟨sender, hsender, hread⟩ := exists_of_bind_eq_some hread
  obtain ⟨receiver, hreceiver, hread⟩ := exists_of_bind_eq_some hread
  obtain ⟨log, -, hread⟩ := exists_of_bind_eq_some hread
  obtain rfl := Option.some.inj hread
  rw [SessionConfig.durations, List.forall_mem_append]
  exact ⟨of_field?_eq_some whole_of_read?_sender (by decide) hsender,
    of_field?_eq_some whole_of_read?_receiver (by decide) hreceiver⟩

/-- Whatever is read of any type has whole spans only. -/
theorem whole_of_read?_dataType {t : DataType} {v : Value} {a : t.Carrier}
    (hread : read? d v = some a) : ∀ s ∈ t.spans a, s.IsWholeBelow UInt64.size := by
  cases t with
  | senderConfig => exact whole_of_read?_sender v a hread
  | receiverConfig => exact whole_of_read?_receiver v a hread
  | sessionConfig => exact whole_of_read?_session v a hread
  | _ => exact List.forall_mem_nil _

end Form

/-! ## JSON -/

namespace DataType

/-- A text is read back as what was written. -/
theorem ofJson?_toJson_of_read? {t : DataType} {a : t.Carrier}
    (hread : read? .json (write a) = some a) : t.ofJson? (t.toJson a) = some a := by
  have hparse : Json.parse? (t.toJson a) = some (write a) := Json.parse?_write (Json.fits_write t a)
  rw [ofJson?, hparse, Option.bind_some, hread]

/-- A value of any type is read from the JSON that is written for it, and from the text of that, if
its spans of time are whole numbers of milliseconds; and what is read from any JSON is the same once
it has been written and read again. -/
theorem ofJson?_toJson (t : DataType) :
    (∀ a : t.Carrier, (∀ s ∈ t.spans a, s.IsWholeBelow UInt64.size) →
      read? .json (write a) = some a ∧ t.ofJson? (t.toJson a) = some a) ∧
    ∀ v : Value, (read? .json v).bind (fun a : t.Carrier => t.ofJson? (t.toJson a)) =
      read? .json v := by
  constructor
  · intro a hwhole
    have hread : read? .json (write a) = some a := read?_write_dataType .json t hwhole
    exact ⟨hread, ofJson?_toJson_of_read? hread⟩
  · intro v
    cases hread : (read? .json v : Option t.Carrier) with
    | none => rfl
    | some a =>
      rw [Option.bind_some]
      exact ofJson?_toJson_of_read? (read?_write_dataType .json t (whole_of_read?_dataType hread))

/-- A sender that paces itself, given with a name that no sender has and with a choice spelled as a
table. -/
def pacedSender : Value :=
  .table [("volume", .int 11), ("clock_source", .table [("internal", .null)]),
    ("packet_length_ms", .int 18446744073709551615)]

theorem ofJson?_toJson_pacedSender :
    ∃ c : SenderConfig, read? .json pacedSender = some c ∧ c.clockSource = .internal ∧
      (∀ s ∈ c.durations, s.IsWholeBelow UInt64.size) ∧
      ofJson? .senderConfig (toJson .senderConfig c) = some c := by
  let c : SenderConfig :=
    { clockSource := .internal, packetLength := .ofMillis 18446744073709551615 }
  have hread : read? .json pacedSender = some c := by decide +kernel
  have hwhole : ∀ s ∈ c.durations, s.IsWholeBelow UInt64.size := by decide +kernel
  exact ⟨c, hread, rfl, hwhole, ((ofJson?_toJson .senderConfig).1 c hwhole).2⟩

end DataType
end AudioLink
