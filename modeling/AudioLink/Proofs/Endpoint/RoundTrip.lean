import AudioLink.Proofs.Endpoint.Grammar

/-
Reading and composing URIs of endpoints are inverse to each other.

Composing reads its result back, so what it gives is read as the endpoint it was given. The other
direction is not checked when a URI is read: that the fields of an endpoint which was read are put
together to the very text again. It follows from the grammar, since valid parts pass every check
that is made on the fields and are put together in the order in which a URI has them.
-/
set_option autoImplicit false

namespace AudioLink
namespace Endpoint

/-! ## Port values -/

/-- The number of a port is kept as it is. -/
theorem toInt_ofNat {n : Nat} (hn : n ≤ 65535) : (Int32.ofNat n).toInt = n :=
  Int32.toInt_ofNat_of_lt (by omega)

theorem isPortNumber_ofNat {n : Nat} (hn : n ≤ 65535) : isPortNumber (Int32.ofNat n) = true := by
  have htoInt := toInt_ofNat hn
  rw [isPortNumber, Bool.and_eq_true, decide_eq_true_eq, decide_eq_true_eq]
  rw [Int32.le_iff_toInt_le, Int32.le_iff_toInt_le, htoInt]
  constructor
  · show (0 : Int) ≤ n
    omega
  · show (n : Int) ≤ 65535
    omega

theorem ofNat_ne_portUnspecified {n : Nat} (hn : n ≤ 65535) :
    Int32.ofNat n ≠ portUnspecified := by
  intro heq
  have htoInt := toInt_ofNat hn
  rw [heq] at htoInt
  have hminus : portUnspecified.toInt = -1 := by decide
  omega

/-- The port of valid parts stands in the URI as it was written. -/
theorem UriParts.IsValid.portText_endpoint {x : UriParts} (h : x.IsValid) :
    portText x.protocol x.endpoint.port = .ok (Url.portSuffix x.port) := by
  cases hport : x.port with
  | none =>
    have hrtsp : x.protocol = .rtsp := h.port_absent hport
    rw [endpoint, hport, hrtsp]
    rfl
  | some n =>
    have hn : n ≤ 65535 := h.port_le n hport
    simp only [endpoint, hport]
    rw [portText, if_neg (ofNat_ne_portUnspecified hn), if_pos (isPortNumber_ofNat hn),
      toInt_ofNat hn, Int.toNat_natCast]
    rfl

/-! ## Putting fields together -/

/-- When fields can be put together, and what they make. -/
theorem assemble_eq_ok_iff {e : Endpoint} {text : List Char} :
    assemble e = .ok text ↔
      ∃ p, e.protocol = some p ∧ hasZeroByte e.host.toList = false ∧
        hasZeroByte e.resource.toList = false ∧ e.host ≠ "" ∧
        ∃ port, portText p e.port = .ok port ∧ (e.resource ≠ "" → p = .rtsp) ∧
          p.scheme.toList ++ "://".toList ++ e.host.toList ++ port ++ e.resource.toList = text := by
  unfold assemble
  cases e.protocol with
  | none => simp [bind, Except.bind, throw, throwThe, MonadExceptOf.throw]
  | some p =>
    simp only [bind, Except.bind, throw, throwThe, MonadExceptOf.throw, pure, Except.pure,
      ite_error_eq_ok_iff, Bool.not_eq_true, Option.some.injEq, exists_eq_left']
    refine and_congr_right fun _ => and_congr_right fun _ => and_congr_right fun _ => ?_
    cases portText p e.port with
    | error fault => simp
    | ok port =>
      simp only [ite_error_eq_ok_iff, Except.ok.injEq, exists_eq_left', not_and,
        Bool.not_eq_false, Protocol.supportsResource_iff]

/-- No part of a URI holds a zero byte. -/
theorem UriParts.IsValid.hasZeroByte_eq_false {x : UriParts} (h : x.IsValid) {cs : List Char}
    (hcs : ∀ c ∈ cs, c ∈ x.text) : hasZeroByte cs = false := by
  rw [hasZeroByte, Bool.eq_false_iff, ne_eq, List.contains_iff_mem]
  intro hmem
  have hvisible := h.isPlain.visible '\x00' (h.text_url ▸ hcs _ hmem)
  exact absurd hvisible (by decide)

/-- The fields of an endpoint with valid parts make the text of these parts. -/
theorem UriParts.IsValid.assemble_endpoint {x : UriParts} (h : x.IsValid) :
    assemble x.endpoint = .ok x.text := by
  rw [assemble_eq_ok_iff]
  have htext : x.text = x.protocol.scheme.toList ++ "://".toList ++ x.host
      ++ Url.portSuffix x.port ++ x.resource := rfl
  refine ⟨x.protocol, rfl, h.hasZeroByte_eq_false ?_, h.hasZeroByte_eq_false ?_, ?_,
    Url.portSuffix x.port, h.portText_endpoint, ?_, ?_⟩
  · intro c hc
    rw [UriParts.toList_host_endpoint] at hc
    simp [htext, hc]
  · intro c hc
    rw [UriParts.toList_resource_endpoint] at hc
    simp [htext, hc]
  · intro hnil
    have hhost : x.endpoint.host.toList = [] := by rw [hnil]; rfl
    rw [UriParts.toList_host_endpoint] at hhost
    exact h.host.ne_nil hhost
  · intro hne
    rcases h.resource with ⟨hpath, hquery⟩ | ⟨hrtsp, -⟩
    · have hnil : x.resource = [] := resource_eq_nil_iff.mpr ⟨hpath, hquery⟩
      exact absurd (by rw [UriParts.endpoint, hnil]) hne
    · exact hrtsp
  · rw [htext, UriParts.toList_host_endpoint, UriParts.toList_resource_endpoint]

/-! ## Round trips -/

/-- What is read from a text is put together to it again. -/
theorem assemble_of_parse {u : String} {e : Endpoint} (h : parse u = .ok e) :
    assemble e = .ok u.toList := by
  obtain ⟨x, hvalid, hu, rfl⟩ := exists_uriParts_of_parse h
  rw [hu]
  exact hvalid.assemble_endpoint

theorem compose_of_parse {u : String} {e : Endpoint} (h : parse u = .ok e) :
    compose e = .ok u := by
  rw [compose, bind_eq_ok_iff]
  refine ⟨u.toList, assemble_of_parse h, ?_⟩
  rw [String.ofList_toList, bind_eq_ok_iff]
  exact ⟨e, h, if_pos rfl⟩

theorem parse_of_compose {u : String} {e : Endpoint} (h : compose e = .ok u) :
    parse u = .ok e := by
  obtain ⟨text, -, h⟩ := bind_eq_ok_iff.mp h
  obtain ⟨back, hback, h⟩ := bind_eq_ok_iff.mp h
  by_cases hsame : back = e
  · rw [if_pos hsame] at h
    obtain rfl : String.ofList text = u := Except.ok.inj h
    rw [hback, hsame]
  · rw [if_neg hsame] at h
    exact absurd h nofun

/-- What an endpoint that was read is put together from. -/
theorem fields_of_parse {u : String} {e : Endpoint} (h : parse u = .ok e) :
    ∃ p, e.protocol = some p ∧
      u.toList = p.scheme.toList ++ "://".toList ++ e.host.toList
        ++ (if e.port = portUnspecified then [] else ':' :: Digits.decimal e.port.toInt.toNat)
        ++ e.resource.toList := by
  obtain ⟨p, hprotocol, -, -, -, port, hport, -, htext⟩ :=
    assemble_eq_ok_iff.mp (assemble_of_parse h)
  refine ⟨p, hprotocol, ?_⟩
  rw [← htext]
  by_cases hunspecified : e.port = portUnspecified
  · rw [portText, if_pos hunspecified, ite_error_eq_ok_iff] at hport
    obtain rfl : [] = port := Except.ok.inj hport.2
    rw [if_pos hunspecified]
  · rw [portText, if_neg hunspecified] at hport
    rw [if_neg hunspecified]
    by_cases hnumber : isPortNumber e.port = true
    · rw [if_pos hnumber] at hport
      rw [Except.ok.inj hport]
    · rw [if_neg hnumber] at hport
      exact absurd hport nofun

/-- A text is read as an endpoint exactly if it is the URI of that endpoint. So a URI that is read
is its fields put together, character for character; no two URIs are read as one endpoint; and an
endpoint with a URI is read back from it. -/
theorem parse_inverse_compose :
    (∀ u e, parse u = .ok e ↔ compose e = .ok u) ∧
      (∀ u e, parse u = .ok e → ∃ p, e.protocol = some p ∧
        u.toList = p.scheme.toList ++ "://".toList ++ e.host.toList
          ++ (if e.port = portUnspecified then [] else ':' :: Digits.decimal e.port.toInt.toNat)
          ++ e.resource.toList) ∧
      (∀ u v e, parse u = .ok e → parse v = .ok e → u = v) ∧
      (∀ e u, compose e = .ok u → parse u = .ok e) := by
  refine ⟨fun u e => ⟨compose_of_parse, parse_of_compose⟩, fun u e h => fields_of_parse h, ?_,
    fun e u h => parse_of_compose h⟩
  intro u v e hu hv
  have hsame : Except.ok u = Except.ok v := (compose_of_parse hu).symm.trans (compose_of_parse hv)
  exact Except.ok.inj hsame

/-- A URI with all parts, and its endpoint. -/
theorem parse_inverse_compose_full :
    parse "rtsp://[::1]:8554/a%2F?b" = .ok ⟨some .rtsp, "[::1]", 8554, "/a%2F?b"⟩ ∧
      compose ⟨some .rtsp, "[::1]", 8554, "/a%2F?b"⟩ = .ok "rtsp://[::1]:8554/a%2F?b" := by
  have hparse : parse "rtsp://[::1]:8554/a%2F?b" = .ok ⟨some .rtsp, "[::1]", 8554, "/a%2F?b"⟩ := by
    decide +kernel
  exact ⟨hparse, (parse_inverse_compose.1 _ _).mp hparse⟩

end Endpoint
end AudioLink
