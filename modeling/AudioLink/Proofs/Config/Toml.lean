import AudioLink.Config.Toml
import AudioLink.Proofs.Config.Forms
import AudioLink.Proofs.Toml.Layout
import Mathlib.Algebra.Group.Nat.Defs

/-
Configurations survive being saved as a text and read again.

A configuration is a table of tables. Its values fit the format as long as spans of time do, so it
has a text, and the text is read as the same table with the fields of each table in another order.
A record does not mind the order of its fields.
-/
set_option autoImplicit false

namespace AudioLink

open Form

namespace Toml

/-! ## What fits the format -/

section Fits

variable {depth : Nat}

theorem fits_uint32 (n : UInt32) : Fits depth (write n) := by
  have hlt := n.toNat_lt
  have hmin : minInt = -9223372036854775808 := by decide
  have hmax : maxInt = 9223372036854775807 := by decide
  show minInt ≤ (n.toNat : Int) ∧ (n.toNat : Int) ≤ maxInt
  omega

theorem fits_int32 (n : Int32) : Fits depth (write n) := by
  have hlt : n.toInt < 2147483648 := n.toInt_lt
  have hle : -2147483648 ≤ n.toInt := n.le_toInt
  have hmin : minInt = -9223372036854775808 := by decide
  have hmax : maxInt = 9223372036854775807 := by decide
  show minInt ≤ n.toInt ∧ n.toInt ≤ maxInt
  omega

/-- A span of time fits if its count of milliseconds has 63 bits. -/
theorem fits_duration {t : Duration} (ht : t.IsWholeBelow (2 ^ 63)) : Fits depth (write t) := by
  have hlt : t.wholeMillis < 9223372036854775808 := ht.2
  have hcount : t.millis.toNat = t.wholeMillis := UInt64.toNat_ofNat_of_lt (Nat.lt_trans hlt (by decide))
  have hmin : minInt = -9223372036854775808 := by decide
  have hmax : maxInt = 9223372036854775807 := by decide
  show minInt ≤ (t.millis.toNat : Int) ∧ (t.millis.toNat : Int) ≤ maxInt
  omega

/-- A label of plain characters fits. -/
theorem fits_labelled {α : Type} [Labelled α]
    (hlabels : (Labelled.all : List α).all
      (fun a => isPlainText (Labelled.label a).toList) = true) (a : α) :
    Fits depth (write a) := by
  have hmem : a ∈ (Labelled.all : List α) := List.mem_of_find?_eq_some (Labelled.find?_label a)
  exact List.all_eq_true.mp hlabels a hmem

/-- A table fits if its names are among some that are bare and differ, and its values fit. -/
theorem fits_table {fields : List (String × Value)} (names : List String)
    (hnames : (fields.map Prod.fst).Sublist names) (hbare : ∀ n ∈ names, IsBare n)
    (hnodup : names.Nodup) (hvalues : ∀ x ∈ fields, Fits depth x.2) :
    Fits (depth + 1) (.table fields) := by
  -- Along any part of the fields, since a part of a table is no smaller table that fits.
  have hfields : ∀ rest : List (String × Value), (∀ x ∈ rest, x ∈ fields) →
      FieldsFit depth rest := by
    intro rest
    induction rest with
    | nil => exact fun _ => trivial
    | cons x rest ih =>
      intro hrest
      have hx : x ∈ fields := hrest x (by simp)
      have hname : IsBare x.1 := hbare _ (hnames.subset (List.mem_map_of_mem hx))
      exact ⟨hname, hvalues x hx, ih fun y hy => hrest y (by simp [hy])⟩
  exact ⟨Nat.succ_pos _, hnodup.sublist hnames, hfields fields fun _ hx => hx⟩

theorem fits_media (e : MediaEncoding) : Fits (depth + 1) (write e) := by
  refine fits_table ["rate", "format", "channels", "tracks"] (List.Sublist.refl _) (by decide)
    (by decide) ?_
  simp only [List.forall_mem_cons, entry]
  exact ⟨fits_uint32 _, fits_labelled (by decide) _, fits_labelled (by decide) _, fits_uint32 _,
    List.forall_mem_nil _⟩

theorem fits_context (c : ContextConfig) : Fits (depth + 1) (write c) := by
  refine fits_table ["max_packet_size", "max_frame_size"] (List.Sublist.refl _) (by decide)
    (by decide) ?_
  simp only [List.forall_mem_cons, entry]
  exact ⟨fits_uint32 _, fits_uint32 _, List.forall_mem_nil _⟩

theorem fits_packet (e : PacketEncoding) : Fits (depth + 1) (write e) := by
  cases e with
  | avpL16Mono => exact show isPlainText "avp_l16_mono".toList = true by decide
  | avpL16Stereo => exact show isPlainText "avp_l16_stereo".toList = true by decide
  | registered id =>
    refine fits_table ["registered"] (List.Sublist.refl _) (by decide) (by decide) ?_
    simp only [List.forall_mem_cons, entry]
    exact ⟨fits_int32 _, List.forall_mem_nil _⟩

/-- A sender fits if the counts of its spans fit a TOML integer. -/
theorem fits_sender {c : SenderConfig} (hwhole : ∀ t ∈ c.durations, t.IsWholeBelow (2 ^ 63)) :
    Fits (depth + 2) (write c) := by
  simp only [SenderConfig.durations, List.forall_mem_cons] at hwhole
  obtain ⟨hlength, hlatency, htolerance, -⟩ := hwhole
  refine fits_table SenderConfig.fieldNames ?_ (by decide) (by decide) ?_
  · exact sublist_map_fst _ "packet_encoding" c.packetEncoding _
  · have hpacket : ∀ x ∈ entryIfSome "packet_encoding" c.packetEncoding,
        Fits (depth + 1) x.2 := forall_mem_entryIfSome fun e _ => fits_packet e
    simp only [List.cons_append, List.forall_mem_cons, List.forall_mem_append, entry]
    exact ⟨fits_media _, hpacket, fits_duration hlength, trivial, fits_labelled (by decide) _,
      fits_uint32 _, fits_uint32 _, fits_labelled (by decide) _, fits_labelled (by decide) _,
      fits_labelled (by decide) _, fits_labelled (by decide) _, fits_labelled (by decide) _,
      fits_duration hlatency, fits_duration htolerance, List.forall_mem_nil _⟩

/-- A receiver fits if the counts of its spans fit a TOML integer. -/
theorem fits_receiver {c : ReceiverConfig} (hwhole : ∀ t ∈ c.durations, t.IsWholeBelow (2 ^ 63)) :
    Fits (depth + 2) (write c) := by
  simp only [ReceiverConfig.durations, List.forall_mem_cons] at hwhole
  obtain ⟨hlatency, htolerance, hplayback, hchoppy, -⟩ := hwhole
  refine fits_table ReceiverConfig.fieldNames (List.Sublist.refl _) (by decide) (by decide) ?_
  simp only [List.forall_mem_cons, entry]
  exact ⟨fits_media _, fits_labelled (by decide) _, fits_labelled (by decide) _,
    fits_labelled (by decide) _, fits_labelled (by decide) _, fits_labelled (by decide) _,
    fits_duration hlatency, fits_duration htolerance, fits_duration hplayback,
    fits_duration hchoppy, List.forall_mem_nil _⟩

/-- The options of the log fit if their filter has nothing to escape. -/
theorem fits_log {c : LogConfig} (hfilter : ∀ f ∈ c.filter, isPlainText f.toList = true) :
    Fits (depth + 1) (write c) := by
  refine fits_table ["level", "filter", "ansi"] ?_ (by decide) (by decide) ?_
  · exact sublist_map_fst _ "filter" c.filter _
  · have hfilter : ∀ x ∈ entryIfSome "filter" c.filter, Fits depth x.2 :=
      forall_mem_entryIfSome hfilter
    simp only [List.cons_append, List.forall_mem_cons, List.forall_mem_append, entry]
    exact ⟨fits_labelled (by decide) _, hfilter, trivial, List.forall_mem_nil _⟩

/-- A configuration fits if its spans and its filter do. -/
theorem fits_session {c : SessionConfig} (hwhole : ∀ t ∈ c.durations, t.IsWholeBelow (2 ^ 63))
    (hfilter : ∀ f ∈ c.log.filter, isPlainText f.toList = true) :
    Fits (depth + 3) (write c) := by
  have hsender := fun t ht => hwhole t (List.mem_append_left c.receiver.durations ht)
  have hreceiver := fun t ht => hwhole t (List.mem_append_right c.sender.durations ht)
  refine fits_table ["context", "sender", "receiver", "log"] (List.Sublist.refl _) (by decide)
    (by decide) ?_
  simp only [List.forall_mem_cons, entry]
  exact ⟨fits_context _, fits_sender hsender, fits_receiver hreceiver, fits_log hfilter,
    List.forall_mem_nil _⟩

end Fits

/-! ## What was rearranged is read -/

variable {d : Dialect}

/-- A table gives by each name what was written under it, rearranged. -/
theorem given?_arrange {fields : List (String × Value)} (hnodup : (fields.map Prod.fst).Nodup)
    (names : List String) : given? d names (arrange (.table fields)) =
      some fun name => (Value.lookup name fields).map arrange := by
  rw [arrange, given?]
  simp only [lookup_arrange hnodup]

/-- Without tables in tables there is nothing to rearrange but the order. -/
theorem given?_arrange_of_flat {fields : List (String × Value)}
    (hnodup : (fields.map Prod.fst).Nodup) (hflat : ∀ x ∈ fields, arrange x.2 = x.2)
    (names : List String) :
    given? d names (arrange (.table fields)) = given? d names (.table fields) := by
  rw [given?_arrange hnodup, given?]
  congr 1
  funext name
  cases hlookup : Value.lookup name fields with
  | none => rfl
  | some v =>
    have hmem := (lookup_eq_some_iff hnodup).mp hlookup
    rw [Option.map_some, hflat _ hmem]

/-- The fields of a table that fits have names that differ. -/
theorem Fits.nodup {depth : Nat} {fields : List (String × Value)}
    (hfits : Fits depth (.table fields)) : (fields.map Prod.fst).Nodup := hfits.2.1

theorem arrange_media (e : MediaEncoding) : arrange (write e) = write e := rfl

/-- A packet encoding has no plain field behind a table, so it is written as it stands. -/
theorem arrange_packet (e : PacketEncoding) : arrange (write e) = write e := by
  cases e with
  | _ => rfl

/-- A sender is read from its fields in the order of the file. -/
theorem read?_arrange_sender {c : SenderConfig}
    (hwhole : ∀ t ∈ c.durations, t.IsWholeBelow (2 ^ 63)) :
    read? d (arrange (write c)) = some c := by
  have hread := read?_write_sender d fun t ht => (hwhole t ht).mono (by decide)
  have hgiven : given? d SenderConfig.fieldNames (arrange (write c)) =
      given? d SenderConfig.fieldNames (write c) := by
    -- The tables in the table of a sender hold no tables, so they are read back as they are.
    have hfits : Fits 2 (write c) := fits_sender hwhole
    refine given?_arrange_of_flat hfits.nodup ?_ _
    have hpacket : ∀ x ∈ entryIfSome "packet_encoding" c.packetEncoding, arrange x.2 = x.2 :=
      forall_mem_entryIfSome fun e _ => arrange_packet e
    simp only [List.cons_append, List.forall_mem_cons, List.forall_mem_append]
    exact ⟨arrange_media _, hpacket, rfl, rfl, rfl, rfl, rfl, rfl, rfl, rfl, rfl, rfl, rfl, rfl,
      List.forall_mem_nil _⟩
  rw [← hread]
  exact read?_sender_congr hgiven

/-- A receiver is read from its fields in the order of the file. -/
theorem read?_arrange_receiver {c : ReceiverConfig}
    (hwhole : ∀ t ∈ c.durations, t.IsWholeBelow (2 ^ 63)) :
    read? d (arrange (write c)) = some c := by
  have hread := read?_write_receiver d fun t ht => (hwhole t ht).mono (by decide)
  have hgiven : given? d ReceiverConfig.fieldNames (arrange (write c)) =
      given? d ReceiverConfig.fieldNames (write c) := by
    have hfits : Fits 2 (write c) := fits_receiver hwhole
    refine given?_arrange_of_flat hfits.nodup ?_ _
    simp only [List.forall_mem_cons]
    exact ⟨arrange_media _, rfl, rfl, rfl, rfl, rfl, rfl, rfl, rfl, rfl, List.forall_mem_nil _⟩
  rw [← hread]
  exact read?_receiver_congr hgiven

/-- The options of the log are plain, so they are written as they stand. -/
theorem arrange_log (c : LogConfig) : arrange (write c) = write c := by
  obtain ⟨level, filter, ansi⟩ := c
  cases filter with
  | _ => rfl

/-- A session is read from its table, however the tables inside it are arranged. -/
theorem read?_arrange_session {c : SessionConfig}
    (hwhole : ∀ t ∈ c.durations, t.IsWholeBelow (2 ^ 63)) :
    read? d (arrange (write c)) = some c := by
  have hsender := read?_arrange_sender (d := d) fun t ht =>
    hwhole t (List.mem_append_left c.receiver.durations ht)
  have hreceiver := read?_arrange_receiver (d := d) fun t ht =>
    hwhole t (List.mem_append_right c.sender.durations ht)
  apply read?_session rfl
  · exact field?_of_given rfl (read?_write_context d c.context) _
  · exact field?_of_given rfl hsender _
  · exact field?_of_given rfl hreceiver _
  · refine field?_of_given rfl ?_ _
    rw [arrange_log]
    exact read?_write_log d c.log

end Toml

namespace SessionConfig

/-- Printable characters of ASCII other than quotes and backslashes. -/
def IsUnescaped (s : String) : Prop :=
  ∀ x ∈ s.toList, 32 ≤ x.toNat ∧ x.toNat ≤ 126 ∧ x ≠ '"' ∧ x ≠ '\'' ∧ x ≠ '\\'

instance (s : String) : Decidable (IsUnescaped s) := List.decidableBAll _ _

/-- A text that needs no escapes is plain for the writer of the file. -/
theorem IsUnescaped.isPlainText {s : String} (hs : IsUnescaped s) :
    Toml.isPlainText s.toList = true := by
  rw [Toml.isPlainText, List.all_eq_true]
  intro x hx
  obtain ⟨hmin, hmax, hquote, -, hslash⟩ := hs x hx
  have hplain : Toml.isPlain x = true := by
    have hdelete : x.toNat ≠ 127 := by omega
    simp [Toml.isPlain, hmin, hdelete]
  simp [hplain, hquote, hslash]

/-- A configuration that fits the format has a text, and is read from it. -/
theorem exists_text {c : SessionConfig} (hwhole : ∀ t ∈ c.durations, t.IsWholeBelow (2 ^ 63))
    (hplain : ∀ f ∈ c.log.filter, Toml.isPlainText f.toList = true) :
    ∃ text, c.toToml = .ok text ∧ ofToml text = .ok c := by
  have hfits : Toml.Fits (Toml.maxKeyParts + 1) (Form.write c) := Toml.fits_session hwhole hplain
  obtain ⟨text, hwrite, hparse⟩ : ∃ text, Toml.write? (Form.write c) = some text ∧
      Toml.parse? text = some (Toml.arrange (Form.write c)) := Toml.parse?_write? hfits
  have hread : (Form.read? .toml (Toml.arrange (Form.write c)) : Option SessionConfig) = some c :=
    Toml.read?_arrange_session hwhole
  refine ⟨String.ofList text, ?_, ?_⟩
  · rw [toToml, hwrite]
  · rw [ofToml, String.toList_ofList, hparse, Option.bind_some, hread]

/-- A configuration whose spans of time are whole numbers of milliseconds has a text, and is read
from it. -/
theorem ofToml_toToml {c : SessionConfig} (hwhole : ∀ t ∈ c.durations, t.IsWholeBelow (2 ^ 63))
    (hfilter : ∀ f ∈ c.log.filter, IsUnescaped f) :
    ∃ text, c.toToml = .ok text ∧ ofToml text = .ok c := by
  have hplain : ∀ f ∈ c.log.filter, Toml.isPlainText f.toList = true :=
    fun f hf => (hfilter f hf).isPlainText
  exact exists_text hwhole hplain

/-- A configuration in which little has its default. -/
def studio : SessionConfig where
  context := { maxPacketSize := 1500, maxFrameSize := 4294967295 }
  sender := {
    frameEncoding := .multitrack 96000 12
    packetEncoding := some (.registered (-5))
    packetLength := .ofMillis 7
    packetInterleaving := true
    fecEncoding := .ldpcStaircase
    clockSource := .internal
    resamplerBackend := .speexDec
    latencyTolerance := .ofMillis 9223372036854775807 }
  receiver := {
    frameEncoding := .stereo 48000
    latencyTunerProfile := .gradual
    choppyPlaybackTimeout := .ofMillis 2500 }
  log := { level := .trace, filter := some "warn,audio_peer=debug", ansi := true }

theorem ofToml_toToml_studio : ∃ text, studio.toToml = .ok text ∧ ofToml text = .ok studio := by
  have hwhole : ∀ t ∈ studio.durations, t.IsWholeBelow (2 ^ 63) := by decide +kernel
  have hfilter : ∀ f ∈ studio.log.filter, IsUnescaped f := by
    intro f hf
    obtain rfl : "warn,audio_peer=debug" = f := Option.some.inj hf
    decide
  exact ofToml_toToml hwhole hfilter

end SessionConfig
end AudioLink
