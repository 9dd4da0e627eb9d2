import AudioLink.Proofs.Config.Toml
import AudioLink.Proofs.Toml.Editing

/-
Partial configurations.

The text of a configuration may be edited: lines can be taken out or put into another order, and
lines with names that no configuration has can be added. `restrict` says which configuration the
edited text is read as: every field has its value if its line was kept and its default if not. The
table of a registered encoding is different, because it stands for a choice and not for a record. Its
one line names the choice that was made, and with another line beside it there is no telling which.
-/
set_option autoImplicit false

namespace AudioLink

open Form

/-! ## What is kept -/

/-- An encoding without the fields that are not kept. -/
def MediaEncoding.restrict (kept : List String → Bool) (e : MediaEncoding) : MediaEncoding :=
  let unset : MediaEncoding := {}
  { rate := if kept ["rate"] then e.rate else unset.rate
    format := if kept ["format"] then e.format else unset.format
    channels := if kept ["channels"] then e.channels else unset.channels
    tracks := if kept ["tracks"] then e.tracks else unset.tracks }

/-- The configuration of a context without the fields that are not kept. -/
def ContextConfig.restrict (kept : List String → Bool) (c : ContextConfig) : ContextConfig :=
  let unset : ContextConfig := {}
  { maxPacketSize := if kept ["max_packet_size"] then c.maxPacketSize else unset.maxPacketSize
    maxFrameSize := if kept ["max_frame_size"] then c.maxFrameSize else unset.maxFrameSize }

/-- The key of the line that a packet encoding is written on. -/
def PacketEncoding.lineKey : PacketEncoding → List String
  | avpL16Mono | avpL16Stereo => ["packet_encoding"]
  | registered _ => ["packet_encoding", "registered"]

/-- The configuration of a sender without the fields that are not kept. -/
def SenderConfig.restrict (kept : List String → Bool) (c : SenderConfig) : SenderConfig :=
  let unset : SenderConfig := {}
  { frameEncoding := c.frameEncoding.restrict fun key => kept ("frame_encoding" :: key)
    packetEncoding := c.packetEncoding.filter fun e => kept e.lineKey
    packetLength := if kept ["packet_length_ms"] then c.packetLength else unset.packetLength
    packetInterleaving :=
      if kept ["packet_interleaving"] then c.packetInterleaving else unset.packetInterleaving
    fecEncoding := if kept ["fec_encoding"] then c.fecEncoding else unset.fecEncoding
    fecBlockSourcePackets :=
      if kept ["fec_block_source_packets"] then c.fecBlockSourcePackets
      else unset.fecBlockSourcePackets
    fecBlockRepairPackets :=
      if kept ["fec_block_repair_packets"] then c.fecBlockRepairPackets
      else unset.fecBlockRepairPackets
    clockSource := if kept ["clock_source"] then c.clockSource else unset.clockSource
    latencyTunerBackend :=
      if kept ["latency_tuner_backend"] then c.latencyTunerBackend else unset.latencyTunerBackend
    latencyTunerProfile :=
      if kept ["latency_tuner_profile"] then c.latencyTunerProfile else unset.latencyTunerProfile
    resamplerBackend :=
      if kept ["resampler_backend"] then c.resamplerBackend else unset.resamplerBackend
    resamplerProfile :=
      if kept ["resampler_profile"] then c.resamplerProfile else unset.resamplerProfile
    targetLatency := if kept ["target_latency_ms"] then c.targetLatency else unset.targetLatency
    latencyTolerance :=
      if kept ["latency_tolerance_ms"] then c.latencyTolerance else unset.latencyTolerance }

/-- The configuration of a receiver without the fields that are not kept. -/
def ReceiverConfig.restrict (kept : List String → Bool) (c : ReceiverConfig) : ReceiverConfig :=
  let unset : ReceiverConfig := {}
  { frameEncoding := c.frameEncoding.restrict fun key => kept ("frame_encoding" :: key)
    clockSource := if kept ["clock_source"] then c.clockSource else unset.clockSource
    latencyTunerBackend :=
      if kept ["latency_tuner_backend"] then c.latencyTunerBackend else unset.latencyTunerBackend
    latencyTunerProfile :=
      if kept ["latency_tuner_profile"] then c.latencyTunerProfile else unset.latencyTunerProfile
    resamplerBackend :=
      if kept ["resampler_backend"] then c.resamplerBackend else unset.resamplerBackend
    resamplerProfile :=
      if kept ["resampler_profile"] then c.resamplerProfile else unset.resamplerProfile
    targetLatency := if kept ["target_latency_ms"] then c.targetLatency else unset.targetLatency
    latencyTolerance :=
      if kept ["latency_tolerance_ms"] then c.latencyTolerance else unset.latencyTolerance
    noPlaybackTimeout :=
      if kept ["no_playback_timeout_ms"] then c.noPlaybackTimeout else unset.noPlaybackTimeout
    choppyPlaybackTimeout :=
      if kept ["choppy_playback_timeout_ms"] then c.choppyPlaybackTimeout
      else unset.choppyPlaybackTimeout }

/-- The configuration of the log without the fields that are not kept. -/
def LogConfig.restrict (kept : List String → Bool) (c : LogConfig) : LogConfig :=
  let unset : LogConfig := {}
  { level := if kept ["level"] then c.level else unset.level
    filter := if kept ["filter"] then c.filter else unset.filter
    ansi := if kept ["ansi"] then c.ansi else unset.ansi }

namespace SessionConfig

/-- The configuration of a session without the fields that are not kept. -/
def restrict (kept : List String → Bool) (c : SessionConfig) : SessionConfig where
  context := c.context.restrict fun key => kept ("context" :: key)
  sender := c.sender.restrict fun key => kept ("sender" :: key)
  receiver := c.receiver.restrict fun key => kept ("receiver" :: key)
  log := c.log.restrict fun key => kept ("log" :: key)

/-- The path of the table that a registered packet encoding is written as. -/
def choicePath : List String := ["sender", "packet_encoding"]

/-- The names that are known in the table at a path. -/
def knownNames : List String → List String
  | [] => ["context", "sender", "receiver", "log"]
  | ["context"] => ["max_packet_size", "max_frame_size"]
  | ["sender"] => SenderConfig.fieldNames
  | ["sender", "packet_encoding"] => ["registered"]
  | ["receiver"] => ReceiverConfig.fieldNames
  | ["sender", "frame_encoding"] | ["receiver", "frame_encoding"] =>
    ["rate", "format", "channels", "tracks"]
  | ["log"] => ["level", "filter", "ansi"]
  | _ => []

/-- Names that are known in the table at a path. -/
def IsKnown (path : List String) (name : String) : Prop := name ∈ knownNames path

instance (path : List String) (name : String) : Decidable (IsKnown path name) :=
  inferInstanceAs (Decidable (_ ∈ _))

/-- Names that cannot be added to the table at a path: those that are known there, and in the table
of a choice all. -/
def IsTaken (path : List String) (name : String) : Prop := IsKnown path name ∨ path = choicePath

instance (path : List String) (name : String) : Decidable (IsTaken path name) :=
  inferInstanceAs (Decidable (_ ∨ _))

end SessionConfig

namespace Toml

open SessionConfig

/-! ## What is left is read -/

section Reading

variable {kept : List String → Bool} {reserved : List String → String → Prop} {d : Dialect}
  {path : List String} {fields : List (String × Value)}

/-- What is given for the fields of a record whose table has been edited. -/
structure Gives (kept : List String → Bool) (reserved : List String → String → Prop)
    (path : List String) (fields : List (String × Value)) (given : String → Option Value) :
    Prop where
  plain : ∀ name v, (name, v) ∈ fields → v.isTable = false →
    given name = if kept (path ++ [name]) then some v else none
  inner : ∀ name v, (name, v) ∈ fields → v.isTable = true →
    ∃ v', given name = some v' ∧ Keeps kept reserved (path ++ [name]) v v'
  missing : ∀ name, reserved path name → name ∉ fields.map Prod.fst → given name = none

/-- A value that keeps some lines of a table gives these fields. -/
theorem Keeps.gives {v : Value} (h : Keeps kept reserved path (.table fields) v)
    (d : Dialect) (names : List String) :
    ∃ given, given? d names v = some given ∧ Gives kept reserved path fields given := by
  cases h with
  | table _ hplain hthere hinner hmissing =>
    refine ⟨_, rfl, hplain, fun name w hmem hw => ?_, hmissing⟩
    obtain ⟨w', hw'⟩ := Option.isSome_iff_exists.mp (hthere name w hmem hw)
    exact ⟨w', hw', hinner name w w' hmem hw hw'⟩

/-- A field has its value if its line was kept, and else its default. -/
theorem Gives.field? {α : Type} [Form α] {given : String → Option Value} {name : String} {a : α}
    (h : Gives kept reserved path fields given) (hmem : (name, write a) ∈ fields)
    (hplain : (write a).isTable = false) (hread : read? d (write a) = some a) (default : α) :
    field? d given name default = some (if kept (path ++ [name]) then a else default) := by
  rw [Form.field?, h.plain name _ hmem hplain]
  by_cases hkept : kept (path ++ [name]) = true
  · rw [if_pos hkept, if_pos hkept]
    exact hread
  · rw [if_neg hkept, if_neg hkept]

/-- A field that holds a table is read from what is left of it. -/
theorem Gives.field?_inner {α : Type} [Form α] {given : String → Option Value} {name : String}
    {b : α} (h : Gives kept reserved path fields given) (a : α) (hmem : (name, write a) ∈ fields)
    (htable : (write a).isTable = true)
    (hread : ∀ v, Keeps kept reserved (path ++ [name]) (write a) v → read? d v = some b)
    (default : α) : Form.field? d given name default = some b := by
  obtain ⟨v, hgiven, hkeeps⟩ := h.inner name _ hmem htable
  exact field?_of_given hgiven (hread v hkeeps) default

/-- A field that was not there has its default, because no line for it can have been added. -/
theorem Gives.field?_missing {α : Type} [Form α] {given : String → Option Value} {name : String}
    (h : Gives kept reserved path fields given) (hreserved : reserved path name)
    (hname : name ∉ fields.map Prod.fst) (default : α) :
    Form.field? d given name default = some default := by
  rw [Form.field?, h.missing name hreserved hname]

/-- What is left of an encoding is read with the defaults in place of what is deleted. -/
theorem read?_restrict_media {e : MediaEncoding} {v : Value}
    (h : Keeps kept reserved path (write e) v) :
    read? d v = some (e.restrict fun key => kept (path ++ key)) := by
  obtain ⟨given, hgiven, hgives⟩ := h.gives d ["rate", "format", "channels", "tracks"]
  apply read?_media hgiven
  · exact hgives.field? (by simp [entry]) rfl (read?_write_uint32 d _) _
  · exact hgives.field? (by simp [entry]) rfl (read?_write_labelled d _) _
  · exact hgives.field? (by simp [entry]) rfl (read?_write_labelled d _) _
  · exact hgives.field? (by simp [entry]) rfl (read?_write_uint32 d _) _

/-- What is left of a context is read with defaults for the rest. -/
theorem read?_restrict_context {c : ContextConfig} {v : Value}
    (h : Keeps kept reserved path (write c) v) :
    read? d v = some (c.restrict fun key => kept (path ++ key)) := by
  obtain ⟨given, hgiven, hgives⟩ := h.gives d ["max_packet_size", "max_frame_size"]
  apply read?_context hgiven
  · exact hgives.field? (by simp [entry]) rfl (read?_write_uint32 d _) _
  · exact hgives.field? (by simp [entry]) rfl (read?_write_uint32 d _) _

/-- What is left of the options of the log is read with defaults for the rest. -/
theorem read?_restrict_log {c : LogConfig} {v : Value}
    (h : Keeps kept IsTaken ["log"] (write c) v) :
    read? d v = some (c.restrict fun key => kept ("log" :: key)) := by
  obtain ⟨given, hgiven, hgives⟩ := h.gives d ["level", "filter", "ansi"]
  apply read?_log hgiven
  · exact hgives.field? (by simp [entry]) rfl (read?_write_labelled d _) _
  · obtain ⟨level, filter, ansi⟩ := c
    cases filter with
    | none =>
      rw [hgives.field?_missing (.inl (by decide)) (by simp [entry, entryIfSome])]
      exact congrArg some (ite_self none).symm
    | some f =>
      have hread : read? d (write (some f)) = some (some f) := rfl
      exact hgives.field? (by simp [entry, entryIfSome, write]) rfl hread _
  · exact hgives.field? (by simp [entry]) rfl (read?_write_bool d _) _

/-- A table with one name in it. -/
theorem eq_singleton_of_lookup {name : String} {v : Value}
    (hnodup : (fields.map Prod.fst).Nodup) (hthere : Value.lookup name fields = some v)
    (hother : ∀ other, other ≠ name → Value.lookup other fields = none) : fields = [(name, v)] := by
  have hname : ∀ x ∈ fields, x.1 = name := by
    intro x hx
    by_contra hne
    exact lookup_eq_none_iff.mp (hother x.1 hne) (List.mem_map_of_mem hx)
  have hmem : (name, v) ∈ fields := (lookup_eq_some_iff hnodup).mp hthere
  match fields with
  | [] => exact absurd hmem List.not_mem_nil
  | [x] => rw [List.mem_singleton.mp hmem]
  | x :: y :: rest =>
    have hxy : x.1 = y.1 := (hname x (by simp)).trans (hname y (by simp)).symm
    rw [List.map_cons, List.map_cons, List.nodup_cons, hxy] at hnodup
    exact absurd List.mem_cons_self hnodup.1

/-- The table of a registered encoding is left as it is. -/
theorem eq_of_keeps_choice (hregistered : kept (choicePath ++ ["registered"]) = true) {id : Int32}
    {v : Value} (h : Keeps kept IsTaken choicePath (write (PacketEncoding.registered id)) v) :
    v = write (PacketEncoding.registered id) := by
  cases h with
  | table hnodup hplain _ _ hmissing =>
    have hthere := hplain "registered" (write id) (by simp [entry]) rfl
    rw [if_pos hregistered] at hthere
    -- All names are taken here, so nothing stands beside the line.
    have hother : ∀ other, other ≠ "registered" → Value.lookup other _ = none :=
      fun other hne => hmissing other (.inr rfl) (by simpa [entry] using hne)
    rw [eq_singleton_of_lookup hnodup hthere hother]
    rfl

/-- A packet encoding is written on a line of its table or as a table of its own. -/
theorem field?_packet {o : Option PacketEncoding}
    (hregistered : ∀ id, o = some (.registered id) → kept (choicePath ++ ["registered"]) = true)
    {given : String → Option Value} {x : String × Value} {after : List (String × Value)}
    (hgives : Gives kept IsTaken ["sender"] (x :: entryIfSome "packet_encoding" o ++ after) given)
    (hx : x.1 ≠ "packet_encoding") (hafter : "packet_encoding" ∉ after.map Prod.fst) :
    field? d given "packet_encoding" none =
      some (o.filter fun e => kept ("sender" :: e.lineKey)) := by
  have hmem : ∀ e ∈ o, ("packet_encoding", write (some e)) ∈
      x :: entryIfSome "packet_encoding" o ++ after := by
    rintro e rfl
    simp [entryIfSome, entry, write]
  cases o with
  | none =>
    refine hgives.field?_missing (.inl (by decide)) ?_ none
    rw [entryIfSome, List.map_append, List.map_singleton, List.singleton_append, List.mem_cons,
      not_or]
    exact ⟨hx.symm, hafter⟩
  | some e =>
    cases e with
    | avpL16Mono => exact hgives.field? (hmem _ rfl) rfl rfl none
    | avpL16Stereo => exact hgives.field? (hmem _ rfl) rfl rfl none
    | registered id =>
      -- The line that names the encoding stands in its table, and that is left as it is.
      refine hgives.field?_inner (some (.registered id)) (hmem _ rfl) rfl (fun v hv => ?_) none
      have hkey : kept ("sender" :: (PacketEncoding.registered id).lineKey) = true :=
        hregistered id rfl
      rw [eq_of_keeps_choice (hregistered id rfl) hv, Option.filter_some, if_pos hkey]
      exact read?_some (write_packet_ne_null _) (read?_write_packet d _)

/-- What is left of a sender is read with defaults for the rest, if the line of a registered encoding
is left. -/
theorem read?_restrict_sender {c : SenderConfig}
    (hregistered : ∀ id, c.packetEncoding = some (.registered id) →
      kept (choicePath ++ ["registered"]) = true)
    (hwhole : ∀ t ∈ c.durations, t.IsWholeBelow (2 ^ 63)) {v : Value}
    (h : Keeps kept IsTaken ["sender"] (write c) v) :
    read? d v = some (c.restrict fun key => kept ("sender" :: key)) := by
  have hmillis := fun t ht => read?_write_duration d ((hwhole t ht).mono (by decide))
  simp only [SenderConfig.durations, List.forall_mem_cons] at hmillis
  obtain ⟨hlength, hlatency, htolerance, -⟩ := hmillis
  obtain ⟨given, hgiven, hgives⟩ := h.gives d SenderConfig.fieldNames
  apply read?_sender hgiven
  · exact hgives.field?_inner c.frameEncoding (by simp [entry]) rfl
      (fun _ => read?_restrict_media) _
  · exact field?_packet hregistered hgives (by simp [entry]) (by simp [entry])
  · exact hgives.field? (by simp [entry]) rfl hlength _
  · exact hgives.field? (by simp [entry]) rfl (read?_write_bool d _) _
  · exact hgives.field? (by simp [entry]) rfl (read?_write_labelled d _) _
  · exact hgives.field? (by simp [entry]) rfl (read?_write_uint32 d _) _
  · exact hgives.field? (by simp [entry]) rfl (read?_write_uint32 d _) _
  · exact hgives.field? (by simp [entry]) rfl (read?_write_labelled d _) _
  · exact hgives.field? (by simp [entry]) rfl (read?_write_labelled d _) _
  · exact hgives.field? (by simp [entry]) rfl (read?_write_labelled d _) _
  · exact hgives.field? (by simp [entry]) rfl (read?_write_labelled d _) _
  · exact hgives.field? (by simp [entry]) rfl (read?_write_labelled d _) _
  · exact hgives.field? (by simp [entry]) rfl hlatency _
  · exact hgives.field? (by simp [entry]) rfl htolerance _

/-- What is left of a receiver is read with defaults for the rest. -/
theorem read?_restrict_receiver {c : ReceiverConfig}
    (hwhole : ∀ t ∈ c.durations, t.IsWholeBelow (2 ^ 63)) {v : Value}
    (h : Keeps kept reserved ["receiver"] (write c) v) :
    read? d v = some (c.restrict fun key => kept ("receiver" :: key)) := by
  have hmillis := fun t ht => read?_write_duration d ((hwhole t ht).mono (by decide))
  simp only [ReceiverConfig.durations, List.forall_mem_cons] at hmillis
  obtain ⟨hlatency, htolerance, hplayback, hchoppy, -⟩ := hmillis
  obtain ⟨given, hgiven, hgives⟩ := h.gives d ReceiverConfig.fieldNames
  apply read?_receiver hgiven
  · exact hgives.field?_inner c.frameEncoding (by simp [entry]) rfl
      (fun _ => read?_restrict_media) _
  · exact hgives.field? (by simp [entry]) rfl (read?_write_labelled d _) _
  · exact hgives.field? (by simp [entry]) rfl (read?_write_labelled d _) _
  · exact hgives.field? (by simp [entry]) rfl (read?_write_labelled d _) _
  · exact hgives.field? (by simp [entry]) rfl (read?_write_labelled d _) _
  · exact hgives.field? (by simp [entry]) rfl (read?_write_labelled d _) _
  · exact hgives.field? (by simp [entry]) rfl hlatency _
  · exact hgives.field? (by simp [entry]) rfl htolerance _
  · exact hgives.field? (by simp [entry]) rfl hplayback _
  · exact hgives.field? (by simp [entry]) rfl hchoppy _

/-- What is left of a configuration is read part by part, with defaults for the rest. -/
theorem read?_restrict_session {c : SessionConfig}
    (hregistered : ∀ id, c.sender.packetEncoding = some (.registered id) →
      kept (choicePath ++ ["registered"]) = true)
    (hwhole : ∀ t ∈ c.durations, t.IsWholeBelow (2 ^ 63)) {v : Value}
    (h : Keeps kept IsTaken [] (write c) v) : read? d v = some (c.restrict kept) := by
  have hsender := fun t ht => hwhole t (List.mem_append_left c.receiver.durations ht)
  have hreceiver := fun t ht => hwhole t (List.mem_append_right c.sender.durations ht)
  obtain ⟨given, hgiven, hgives⟩ := h.gives d ["context", "sender", "receiver", "log"]
  apply read?_session hgiven
  · exact hgives.field?_inner c.context (by simp [entry]) rfl (fun _ => read?_restrict_context) _
  · exact hgives.field?_inner c.sender (by simp [entry]) rfl
      (fun _ => read?_restrict_sender hregistered hsender) _
  · exact hgives.field?_inner c.receiver (by simp [entry]) rfl
      (fun _ => read?_restrict_receiver hreceiver) _
  · exact hgives.field?_inner c.log (by simp [entry]) rfl (fun _ => read?_restrict_log) _

end Reading

/-! ## Names of a configuration -/

section Names

variable {path : List String}

/-- A table with known names. -/
theorem isCovered_table {fields : List (String × Value)}
    (hnames : (fields.map Prod.fst).Sublist (knownNames path))
    (hinner : ∀ x ∈ fields, IsCovered IsTaken (path ++ [x.1]) x.2) :
    IsCovered IsTaken path (.table fields) :=
  .table (fun _ hx => .inl (hnames.subset (List.mem_map_of_mem hx))) hinner

/-- All names in the tables of an encoding are known. -/
theorem isCovered_media (hpath : knownNames path = ["rate", "format", "channels", "tracks"])
    (e : MediaEncoding) : IsCovered IsTaken path (write e) := by
  refine isCovered_table (hpath ▸ List.Sublist.refl _) ?_
  simp only [List.forall_mem_cons, entry]
  exact ⟨.plain rfl, .plain rfl, .plain rfl, .plain rfl, List.forall_mem_nil _⟩

theorem isCovered_context (c : ContextConfig) : IsCovered IsTaken ["context"] (write c) := by
  refine isCovered_table (List.Sublist.refl _) ?_
  simp only [List.forall_mem_cons, entry]
  exact ⟨.plain rfl, .plain rfl, List.forall_mem_nil _⟩

/-- In the table of a choice every name is taken. -/
theorem isCovered_packet (e : PacketEncoding) : IsCovered IsTaken choicePath (write e) := by
  cases e with
  | avpL16Mono => exact .plain rfl
  | avpL16Stereo => exact .plain rfl
  | registered id =>
    refine isCovered_table (List.Sublist.refl _) ?_
    simp only [List.forall_mem_cons, entry]
    exact ⟨.plain rfl, List.forall_mem_nil _⟩

/-- All names in the tables of a sender are known. -/
theorem isCovered_sender (c : SenderConfig) : IsCovered IsTaken ["sender"] (write c) := by
  refine isCovered_table (sublist_map_fst _ "packet_encoding" c.packetEncoding _) ?_
  have hpacket : ∀ x ∈ entryIfSome "packet_encoding" c.packetEncoding,
      IsCovered IsTaken (["sender"] ++ [x.1]) x.2 :=
    forall_mem_entryIfSome fun e _ => isCovered_packet e
  simp only [List.cons_append, List.forall_mem_cons, List.forall_mem_append, entry] at hpacket ⊢
  exact ⟨isCovered_media rfl _, hpacket, .plain rfl, .plain rfl, .plain rfl, .plain rfl, .plain rfl,
    .plain rfl, .plain rfl, .plain rfl, .plain rfl, .plain rfl, .plain rfl, .plain rfl,
    List.forall_mem_nil _⟩

/-- All names in the tables of a receiver are known. -/
theorem isCovered_receiver (c : ReceiverConfig) : IsCovered IsTaken ["receiver"] (write c) := by
  refine isCovered_table (List.Sublist.refl _) ?_
  simp only [List.cons_append, List.forall_mem_cons, entry]
  exact ⟨isCovered_media rfl _, .plain rfl, .plain rfl, .plain rfl, .plain rfl, .plain rfl,
    .plain rfl, .plain rfl, .plain rfl, .plain rfl, List.forall_mem_nil _⟩

theorem isCovered_log (c : LogConfig) : IsCovered IsTaken ["log"] (write c) := by
  refine isCovered_table (sublist_map_fst _ "filter" c.filter _) ?_
  have hfilter : ∀ x ∈ entryIfSome "filter" c.filter, IsCovered IsTaken (["log"] ++ [x.1]) x.2 :=
    forall_mem_entryIfSome fun _ _ => .plain rfl
  simp only [List.cons_append, List.forall_mem_cons, List.forall_mem_append, entry] at hfilter ⊢
  exact ⟨.plain rfl, hfilter, .plain rfl, List.forall_mem_nil _⟩

/-- A configuration has no names but those that are known. -/
theorem isCovered_session (c : SessionConfig) : IsCovered IsTaken [] (write c) := by
  refine isCovered_table (List.Sublist.refl _) ?_
  simp only [List.forall_mem_cons, entry]
  exact ⟨isCovered_context _, isCovered_sender _, isCovered_receiver _, isCovered_log _,
    List.forall_mem_nil _⟩

end Names

end Toml

namespace SessionConfig

/-- The text of a configuration may be edited: taking out lines, bringing lines into another order
and adding lines with new names gives a text that is read, with the defaults for what was taken out.
The table of a choice takes no other line. -/
theorem ofToml_of_isEditOf {c : SessionConfig} (hwhole : ∀ t ∈ c.durations, t.IsWholeBelow (2 ^ 63))
    (hfilter : ∀ f ∈ c.log.filter, IsUnescaped f) {kept : List String → Bool}
    (hregistered : ∀ id, c.sender.packetEncoding = some (.registered id) →
      kept ["sender", "packet_encoding", "registered"] = true) :
    ∃ sections, Toml.sections? [] (Form.write c) = some sections ∧
      c.toToml = .ok (String.ofList (Toml.Page.ofSections sections).render) ∧
      ∀ page : Toml.Page, page.IsEditOf kept IsTaken (.ofSections sections) →
        ofToml (String.ofList page.render) = .ok (c.restrict kept) := by
  have hfits : Toml.Fits (Toml.maxKeyParts + 1) (Form.write c) :=
    Toml.fits_session hwhole fun f hf => (hfilter f hf).isPlainText
  obtain ⟨text, hwrite, -⟩ : ∃ text, Toml.write? (Form.write c) = some text ∧
      Toml.parse? text = some (Toml.arrange (Form.write c)) := Toml.parse?_write? hfits
  obtain ⟨sections, hsections, rfl⟩ := Option.map_eq_some_iff.mp hwrite
  refine ⟨sections, hsections, ?_, fun page hpage => ?_⟩
  · rw [toToml, hwrite, Toml.Page.render_ofSections]
  · have htables : ∀ x ∈ [Form.entry "context" c.context, Form.entry "sender" c.sender,
        Form.entry "receiver" c.receiver, Form.entry "log" c.log], x.2.isTable = true := by
      simp only [List.forall_mem_cons]
      exact ⟨rfl, rfl, rfl, rfl, List.forall_mem_nil _⟩
    obtain ⟨v, hparse, hkeeps⟩ := hpage.exists_parse? hsections hfits (List.cons_ne_nil _ _) htables
      (Toml.isCovered_session c)
    have hread : (Form.read? .toml v : Option SessionConfig) = some (c.restrict kept) :=
      Toml.read?_restrict_session hregistered hwhole hkeeps
    rw [ofToml, String.toList_ofList, hparse, Option.bind_some, hread]

/-- Lines with names that no configuration has, in some of the forms that a line can have. -/
def remarks (path : List String) : List Toml.KeyLine :=
  if path = [] then Toml.KeyLine.ofTexts ["author = 'me' # a draft"]
  else if path = ["sender"] then
    Toml.KeyLine.ofTexts ["mix.level = 3", "mix . \"on air\" = [true, \x7b \x7d]"]
  else []

theorem areNew_remarks (path : List String) : Toml.AreNew IsTaken path (remarks path) := by
  rw [remarks]
  split
  · rename_i hroot
    have hkeys : (Toml.KeyLine.ofTexts ["author = 'me' # a draft"]).map Toml.KeyLine.key =
        [["author"]] := by
      decide +kernel
    refine .ofTexts hkeys ?_ (by decide)
    rw [List.forall_mem_singleton, hroot]
    exact ⟨"author", rfl, by decide⟩
  · split
    · rename_i hsender
      have hkeys : (Toml.KeyLine.ofTexts
          ["mix.level = 3", "mix . \"on air\" = [true, \x7b \x7d]"]).map Toml.KeyLine.key =
            [["mix", "level"], ["mix", "on air"]] := by
        decide +kernel
      refine .ofTexts hkeys ?_ (by decide)
      rw [List.forall_mem_cons, List.forall_mem_singleton, hsender]
      exact ⟨⟨"mix", rfl, by decide⟩, ⟨"mix", rfl, by decide⟩⟩
    · exact .nil

/-- Keys of a few lines. -/
def keepsFew (key : List String) : Bool :=
  key ∈ [["sender", "frame_encoding", "rate"], ["sender", "packet_encoding", "registered"],
    ["log", "filter"]]

theorem ofToml_of_isEditOf_studio :
    ∃ sections, Toml.sections? [] (Form.write studio) = some sections ∧
      ofToml (String.ofList ((Toml.Page.ofSections sections).edit keepsFew remarks).render) =
        .ok {
          sender := { frameEncoding := { rate := 96000 }, packetEncoding := some (.registered (-5)) }
          log := { filter := some "warn,audio_peer=debug" } } := by
  have hwhole : ∀ t ∈ studio.durations, t.IsWholeBelow (2 ^ 63) := by decide +kernel
  have hfilter : ∀ f ∈ studio.log.filter, IsUnescaped f := by
    intro f hf
    obtain rfl : "warn,audio_peer=debug" = f := Option.some.inj hf
    decide
  have hregistered : keepsFew ["sender", "packet_encoding", "registered"] = true := by decide
  obtain ⟨sections, hsections, -, hread⟩ :=
    ofToml_of_isEditOf hwhole hfilter fun _ _ => hregistered
  have hedit := hread _ (Toml.Page.isEditOf_edit areNew_remarks (.ofSections sections))
  refine ⟨sections, hsections, hedit.trans (congrArg Except.ok ?_)⟩
  decide +kernel

/-- A configuration with a registered packet encoding and nothing else. -/
def chosen : SessionConfig := { sender := { packetEncoding := some (.registered 100) } }

/-- The key of the line that names the encoding. -/
def keepsChoice (key : List String) : Bool := key = ["sender", "packet_encoding", "registered"]

/-- A line for the table of the choice with a name that is not known there. -/
def choiceNote (path : List String) : List Toml.KeyLine :=
  if path = choicePath then Toml.KeyLine.ofTexts ["note = 1"] else []

theorem areNew_choiceNote (path : List String) : Toml.AreNew IsKnown path (choiceNote path) := by
  rw [choiceNote]
  split
  · rename_i hpath
    have hkeys : (Toml.KeyLine.ofTexts ["note = 1"]).map Toml.KeyLine.key = [["note"]] := by
      decide +kernel
    refine .ofTexts hkeys ?_ (by decide)
    rw [List.forall_mem_singleton, hpath]
    exact ⟨"note", rfl, by decide⟩
  · exact .nil

/-- Lines with names that are not known cannot be added everywhere: beside the name of a choice any
other line makes it unreadable. -/
theorem not_forall_ofToml_of_isEditOf :
    ¬ ∀ (c : SessionConfig) (kept : List String → Bool) (sections : List Toml.Section)
        (page : Toml.Page), (∀ t ∈ c.durations, t.IsWholeBelow (2 ^ 63)) →
      (∀ f ∈ c.log.filter, IsUnescaped f) →
      (∀ id, c.sender.packetEncoding = some (.registered id) →
        kept ["sender", "packet_encoding", "registered"] = true) →
      Toml.sections? [] (Form.write c) = some sections →
      page.IsEditOf kept IsKnown (.ofSections sections) →
      ofToml (String.ofList page.render) = .ok (c.restrict kept) := by
  intro hall
  have hthere : (Toml.sections? [] (Form.write chosen)).isSome = true := by decide +kernel
  obtain ⟨sections, hsections⟩ := Option.isSome_iff_exists.mp hthere
  have hread := hall chosen keepsChoice sections _ (by decide +kernel) nofun
    (fun _ _ => by decide) hsections (Toml.Page.isEditOf_edit areNew_choiceNote _)
  have hrefused : (Toml.sections? [] (Form.write chosen)).map (fun sections =>
      ofToml (String.ofList
        ((Toml.Page.ofSections sections).edit keepsChoice choiceNote).render)) =
          some (.error notRead) := by
    decide +kernel
  rw [hsections, Option.map_some, hread] at hrefused
  exact absurd hrefused nofun

end SessionConfig
end AudioLink
