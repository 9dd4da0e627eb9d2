import AudioLink.Proofs.Config.Toml

/-
What saving keeps of a span of time.

A span goes through two words on its way into a text: its count of milliseconds is cut to 64 bits,
and the format then takes 63 of them. The second step refuses what does not fit and the first does
not, so a configuration is saved exactly if what is left of each count is below 2^63, and what is
read is what is left. That is the span without its part below a millisecond as long as the first step
had nothing to cut.

A configuration has the text of the one that is left of it, so only what is refused is new here.
-/
set_option autoImplicit false

namespace AudioLink

open Form

/-! ## Spans -/

namespace Duration

/-- The span without its part below a millisecond. -/
def floorMillis (t : Duration) : Duration :=
  ⟨t.wholeMillis * 1000000, by
    have hlt := t.nanos_lt
    unfold wholeMillis
    omega⟩

/-- What is left of a span once it was written: 64 bits of its count of milliseconds. -/
def written (t : Duration) : Duration := ofMillis t.millis

theorem toNat_millis (t : Duration) : t.millis.toNat = t.wholeMillis % UInt64.size :=
  UInt64.toNat_ofNat

/-- A count below 2^64 is kept. -/
theorem written_eq_floorMillis {t : Duration} (ht : t.wholeMillis < UInt64.size) :
    t.written = t.floorMillis := by
  have hcount : t.millis.toNat = t.wholeMillis := by rw [toNat_millis, Nat.mod_eq_of_lt ht]
  simp [written, floorMillis, ofMillis, hcount]

theorem isWholeBelow_written {t : Duration} (ht : t.wholeMillis % UInt64.size < 2 ^ 63) :
    t.written.IsWholeBelow (2 ^ 63) := by
  refine ⟨Nat.mul_mod_left _ _, ?_⟩
  have hcount : t.written.wholeMillis = t.wholeMillis % UInt64.size := by
    rw [← toNat_millis]
    exact Nat.mul_div_cancel _ (by decide)
  rw [hcount]
  exact ht

end Duration

/-! ## Configurations -/

/-- The configuration with each of its spans of time changed. -/
def SenderConfig.mapDurations (f : Duration → Duration) (c : SenderConfig) : SenderConfig :=
  { c with
    packetLength := f c.packetLength
    targetLatency := f c.targetLatency
    latencyTolerance := f c.latencyTolerance }

/-- The configuration with each of its spans of time changed. -/
def ReceiverConfig.mapDurations (f : Duration → Duration) (c : ReceiverConfig) : ReceiverConfig :=
  { c with
    targetLatency := f c.targetLatency
    latencyTolerance := f c.latencyTolerance
    noPlaybackTimeout := f c.noPlaybackTimeout
    choppyPlaybackTimeout := f c.choppyPlaybackTimeout }

namespace SessionConfig

/-- The configuration with each of its spans of time changed. -/
def mapDurations (f : Duration → Duration) (c : SessionConfig) : SessionConfig :=
  { c with sender := c.sender.mapDurations f, receiver := c.receiver.mapDurations f }

theorem durations_mapDurations (f : Duration → Duration) (c : SessionConfig) :
    (c.mapDurations f).durations = c.durations.map f := rfl

theorem mapDurations_congr {f g : Duration → Duration} {c : SessionConfig}
    (hfg : ∀ t ∈ c.durations, f t = g t) : c.mapDurations f = c.mapDurations g := by
  simp only [durations, SenderConfig.durations, ReceiverConfig.durations, List.forall_mem_append,
    List.forall_mem_cons] at hfg
  simp only [mapDurations, SenderConfig.mapDurations, ReceiverConfig.mapDurations, hfg]

end SessionConfig

namespace Form

/-- Of a span, the text has what is left of it. -/
theorem entry_written (name : String) (t : Duration) : entry name t.written = entry name t := by
  have hcount : t.written.millis = t.millis := Duration.millis_ofMillis _
  exact congrArg (fun n : UInt64 => entry name n) hcount

theorem write_mapDurations_sender (c : SenderConfig) :
    write (c.mapDurations Duration.written) = write c := by
  simp only [write, SenderConfig.mapDurations, entry_written]

theorem write_mapDurations_receiver (c : ReceiverConfig) :
    write (c.mapDurations Duration.written) = write c := by
  simp only [write, ReceiverConfig.mapDurations, entry_written]

theorem write_mapDurations_session (c : SessionConfig) :
    write (c.mapDurations Duration.written) = write c := by
  have hsender : entry "sender" (c.sender.mapDurations Duration.written) =
      entry "sender" c.sender := congrArg (Prod.mk _) (write_mapDurations_sender c.sender)
  have hreceiver : entry "receiver" (c.receiver.mapDurations Duration.written) =
      entry "receiver" c.receiver := congrArg (Prod.mk _) (write_mapDurations_receiver c.receiver)
  simp only [write, SessionConfig.mapDurations, hsender, hreceiver]

end Form

/-! ## What is refused -/

namespace Toml

variable {path : List String} {fields : List (String × Value)} {x : String × Value}

/-- A table is written only if its plain values are. -/
theorem exists_plain? {entries : List Entry} (hentries : entries? fields = some entries)
    (hx : x ∈ fields) (hplain : x.2.isTable = false) : ∃ p, plain? x.2 = some p := by
  induction fields generalizing entries with
  | nil => exact absurd hx List.not_mem_nil
  | cons y fields ih =>
    obtain ⟨name, v⟩ := y
    cases htable : v.isTable with
    | true =>
      have hrest : entries? fields = some entries := by simpa [entries?, htable] using hentries
      rcases List.mem_cons.mp hx with rfl | hx
      · exact absurd (htable.symm.trans hplain) (by decide)
      · exact ih hrest hx
    | false =>
      rw [entries?, if_neg (by simp [htable])] at hentries
      obtain ⟨p, hp, hentries⟩ := Option.bind_eq_some_iff.mp hentries
      obtain ⟨more, hmore, -⟩ := Option.bind_eq_some_iff.mp hentries
      rcases List.mem_cons.mp hx with rfl | hx
      · exact ⟨p, hp⟩
      · exact ih hmore hx

/-- A table is written only if what is in it is. -/
theorem exists_sections? {inner : List Section} (hinner : fieldSections? path fields = some inner)
    (hx : x ∈ fields) : ∃ sections, sections? (path ++ [x.1]) x.2 = some sections := by
  induction fields generalizing inner with
  | nil => exact absurd hx List.not_mem_nil
  | cons y fields ih =>
    obtain ⟨name, v⟩ := y
    obtain ⟨first, hfirst, hinner⟩ := Option.bind_eq_some_iff.mp hinner
    obtain ⟨more, hmore, -⟩ := Option.bind_eq_some_iff.mp hinner
    rcases List.mem_cons.mp hx with rfl | hx
    · exact ⟨first, hfirst⟩
    · exact ih hmore hx

/-- The parts of a table that is written are written. -/
theorem parts_of_sections? {sections : List Section}
    (hsections : sections? path (.table fields) = some sections) :
    (∃ entries, entries? fields = some entries) ∧
      ∃ inner, fieldSections? path fields = some inner := by
  obtain ⟨entries, hentries, hsections⟩ := Option.bind_eq_some_iff.mp hsections
  obtain ⟨inner, hinner, -⟩ := Option.bind_eq_some_iff.mp hsections
  exact ⟨⟨entries, hentries⟩, inner, hinner⟩

/-- A span of time is written only if the format takes what is left of its count. -/
theorem lt_of_mem_entries? {entries : List Entry} (hentries : entries? fields = some entries)
    (name : String) {t : Duration} (hmem : entry name t ∈ fields) :
    t.wholeMillis % UInt64.size < 2 ^ 63 := by
  obtain ⟨p, hp⟩ := exists_plain? hentries hmem rfl
  have hmax : maxInt = 9223372036854775807 := by decide
  have hrange : minInt ≤ (t.millis.toNat : Int) ∧ (t.millis.toNat : Int) ≤ maxInt := by
    by_contra hout
    exact absurd ((if_neg hout).symm.trans hp) nofun
  rw [Duration.toNat_millis] at hrange
  omega

theorem lt_of_write?_session {c : SessionConfig} {text : List Char}
    (hwrite : write? (write c) = some text) :
    ∀ t ∈ c.durations, t.wholeMillis % UInt64.size < 2 ^ 63 := by
  obtain ⟨sections, hsections, -⟩ := Option.map_eq_some_iff.mp hwrite
  obtain ⟨-, inner, hinner⟩ := parts_of_sections? hsections
  obtain ⟨senderSections, hsender⟩ := exists_sections? hinner (x := entry "sender" c.sender)
    (by simp)
  obtain ⟨receiverSections, hreceiver⟩ := exists_sections? hinner
    (x := entry "receiver" c.receiver) (by simp)
  obtain ⟨⟨senderEntries, hsender⟩, -⟩ := parts_of_sections? hsender
  obtain ⟨⟨receiverEntries, hreceiver⟩, -⟩ := parts_of_sections? hreceiver
  simp only [SessionConfig.durations, SenderConfig.durations, ReceiverConfig.durations,
    List.forall_mem_append, List.forall_mem_cons]
  refine ⟨⟨?_, ?_, ?_, List.forall_mem_nil _⟩, ?_, ?_, ?_, ?_, List.forall_mem_nil _⟩
  · exact lt_of_mem_entries? hsender "packet_length_ms" (by simp)
  · exact lt_of_mem_entries? hsender "target_latency_ms" (by simp)
  · exact lt_of_mem_entries? hsender "latency_tolerance_ms" (by simp)
  · exact lt_of_mem_entries? hreceiver "target_latency_ms" (by simp)
  · exact lt_of_mem_entries? hreceiver "latency_tolerance_ms" (by simp)
  · exact lt_of_mem_entries? hreceiver "no_playback_timeout_ms" (by simp)
  · exact lt_of_mem_entries? hreceiver "choppy_playback_timeout_ms" (by simp)

end Toml

/-! ## What is saved -/

namespace SessionConfig

variable {c : SessionConfig}

/-- A configuration has the text of what is left of it. -/
theorem toToml_mapDurations_written (c : SessionConfig) :
    (c.mapDurations Duration.written).toToml = c.toToml := by
  rw [toToml, toToml, write_mapDurations_session]

theorem exists_text_of_lt (hspans : ∀ t ∈ c.durations, t.wholeMillis % UInt64.size < 2 ^ 63)
    (hfilter : ∀ f ∈ c.log.filter, IsUnescaped f) :
    ∃ text, c.toToml = .ok text ∧ ofToml text = .ok (c.mapDurations Duration.written) := by
  have hwhole : ∀ t ∈ (c.mapDurations Duration.written).durations,
      t.IsWholeBelow (2 ^ 63) := by
    rw [durations_mapDurations]
    intro t ht
    obtain ⟨s, hs, rfl⟩ := List.mem_map.mp ht
    exact Duration.isWholeBelow_written (hspans s hs)
  have htext := exists_text hwhole fun f hf => (hfilter f hf).isPlainText
  rwa [toToml_mapDurations_written] at htext

theorem lt_of_toToml {text : String} (htext : c.toToml = .ok text) :
    ∀ t ∈ c.durations, t.wholeMillis % UInt64.size < 2 ^ 63 := by
  cases hwrite : Toml.write? (write c) with
  | none =>
    rw [toToml, hwrite] at htext
    cases htext
  | some cs => exact Toml.lt_of_write?_session hwrite

/-- A configuration is saved exactly if 63 bits are enough for what is left of the spans of time in
it, and what is left of them is what is read. The part below a millisecond is all that is lost as
long as no count of milliseconds has more than 64 bits. -/
theorem saved_spans (hfilter : ∀ f ∈ c.log.filter, IsUnescaped f) :
    ((∃ text, c.toToml = .ok text) ↔
      ∀ t ∈ c.durations, t.wholeMillis % UInt64.size < 2 ^ 63) ∧
    (∀ text, c.toToml = .ok text → ofToml text = .ok (c.mapDurations Duration.written)) ∧
    ((∀ t ∈ c.durations, t.wholeMillis < UInt64.size) →
      ∀ text, c.toToml = .ok text → ofToml text = .ok (c.mapDurations Duration.floorMillis)) := by
  have hread : ∀ text, c.toToml = .ok text →
      ofToml text = .ok (c.mapDurations Duration.written) := by
    intro text htext
    obtain ⟨text', htext', hread⟩ := exists_text_of_lt (lt_of_toToml htext) hfilter
    obtain rfl : text = text' := Except.ok.inj (htext.symm.trans htext')
    exact hread
  refine ⟨⟨?_, ?_⟩, hread, ?_⟩
  · rintro ⟨text, htext⟩
    exact lt_of_toToml htext
  · intro hspans
    obtain ⟨text, htext, -⟩ := exists_text_of_lt hspans hfilter
    exact ⟨text, htext⟩
  · intro hcounts text htext
    rw [← mapDurations_congr fun t ht => Duration.written_eq_floorMillis (hcounts t ht)]
    exact hread text htext

/-- A configuration with a span of almost eight milliseconds, and with the longest one that can be
saved. -/
def fractional : SessionConfig where
  sender := { packetLength := ⟨7999999, by decide⟩ }
  receiver := { noPlaybackTimeout := .ofMillis 9223372036854775807 }

theorem saved_spans_fractional : ∃ text, fractional.toToml = .ok text ∧ ofToml text = .ok {
    sender := { packetLength := .ofMillis 7 }
    receiver := { noPlaybackTimeout := .ofMillis 9223372036854775807 } } := by
  have hcounts : ∀ t ∈ fractional.durations, t.wholeMillis < UInt64.size := by decide +kernel
  have hspans : ∀ t ∈ fractional.durations, t.wholeMillis % UInt64.size < 2 ^ 63 := by
    decide +kernel
  obtain ⟨hsaved, -, hread⟩ := saved_spans (c := fractional) (by simp [fractional])
  obtain ⟨text, htext⟩ := hsaved.mpr hspans
  exact ⟨text, htext, hread hcounts text htext⟩

/-- A configuration with a span of 384 milliseconds more than 2^64 milliseconds. -/
def overlong : SessionConfig where
  sender := { packetLength := ⟨18446744073709552000 * 1000000, by decide⟩ }

/-- The span is saved as the 384 milliseconds. -/
theorem ofToml_overlong : ∃ text, overlong.toToml = .ok text ∧
    ofToml text = .ok { sender := { packetLength := .ofMillis 384 } } ∧
    ofToml text ≠ .ok (overlong.mapDurations Duration.floorMillis) := by
  have hspans : ∀ t ∈ overlong.durations, t.wholeMillis % UInt64.size < 2 ^ 63 := by
    decide +kernel
  obtain ⟨text, htext, hread⟩ := exists_text_of_lt hspans (by simp [overlong])
  have hwritten : overlong.mapDurations Duration.written =
      { sender := { packetLength := .ofMillis 384 } } := by decide +kernel
  have hother : overlong.mapDurations Duration.written ≠
      overlong.mapDurations Duration.floorMillis := by decide +kernel
  refine ⟨text, htext, hwritten ▸ hread, ?_⟩
  rw [hread]
  exact fun heq => hother (Except.ok.inj heq)

end SessionConfig

end AudioLink
