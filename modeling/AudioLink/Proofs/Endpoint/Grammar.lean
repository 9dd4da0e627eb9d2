import AudioLink.Endpoint.Uri
import AudioLink.Proofs.Checks
import AudioLink.Proofs.Url.Canonical

/-
The texts that are URIs of endpoints, as a grammar.

A URI has the form `scheme://host[:port][path][?query]`. `UriParts.IsValid` says which parts may be
put together, without any reading: by the characters of each part, by the segments of the path, and
by what each protocol allows. The main statement is that an endpoint is read from a text exactly if
the text is put together from valid parts, and that its fields are then these parts.

A URI of an endpoint is a plain URL of a protocol's scheme, so both halves go through
`Url.IsPlain`. What is added here are the checks that are made on a URL once it has been read.
-/
set_option autoImplicit false

namespace AudioLink

/-! ## Escapes -/

/-- Whether two hexadecimal digits stand behind every percent sign. -/
def EscapesWhole (cs : List Char) : Prop :=
  ∀ before behind, cs = before ++ '%' :: behind →
    ∃ h l rest, behind = h :: l :: rest ∧ Digits.isHex h = true ∧ Digits.isHex l = true

theorem escapesWhole_cons {c : Char} {cs : List Char} :
    EscapesWhole (c :: cs) ↔
      (c = '%' → ∃ h l rest, cs = h :: l :: rest ∧ Digits.isHex h = true ∧ Digits.isHex l = true)
        ∧ EscapesWhole cs := by
  constructor
  · intro hwhole
    refine ⟨?_, fun before behind hcs => hwhole (c :: before) behind (by rw [hcs]; rfl)⟩
    rintro rfl
    exact hwhole [] cs rfl
  · rintro ⟨hfirst, hrest⟩ before behind hcs
    cases before with
    | nil =>
      injection hcs with hc hcs
      exact hcs ▸ hfirst hc
    | cons d before =>
      injection hcs with _ hcs
      exact hrest before behind hcs

theorem escapesComplete_iff {cs : List Char} :
    Percent.escapesComplete cs = true ↔ EscapesWhole cs := by
  induction cs with
  | nil => simp [Percent.escapesComplete, EscapesWhole]
  | cons c cs ih =>
    rw [escapesWhole_cons, ← ih]
    by_cases hc : c = '%'
    · subst hc
      match cs with
      | [] => simp [Percent.escapesComplete]
      | [h] => simp [Percent.escapesComplete]
      | h :: l :: rest =>
        rw [Percent.escapesComplete]
        simp
    · rw [Percent.escapesComplete]
      · simp [hc]
      · exact hc

/-! ## Protocols -/

namespace Protocol

/-- The scheme of a protocol is written in canonical form, and is none of the special ones. -/
theorem isPlainScheme (p : Protocol) : Url.IsPlainScheme p.scheme.toList where
  letter := by cases p <;> decide
  chars := List.all_eq_true.mp (by cases p <;> decide)
  visible := List.all_eq_true.mp (by cases p <;> decide)
  lower := by cases p <;> decide
  other := by cases p <;> decide

theorem ofScheme?_eq_some_iff {scheme : String} {p : Protocol} :
    ofScheme? scheme = some p ↔ scheme = p.scheme := by
  constructor
  · intro h
    have hfound := List.find?_some h
    exact (of_decide_eq_true hfound).symm
  · rintro rfl
    exact ofScheme?_scheme p

theorem parse_eq_ok_iff {scheme : String} {p : Protocol} :
    Protocol.parse scheme = .ok p ↔ scheme = p.scheme := by
  rw [← ofScheme?_eq_some_iff, Protocol.parse]
  cases ofScheme? scheme <;> simp

/-- Only one protocol has a port of its own. -/
theorem defaultPort?_eq_none_iff (p : Protocol) : p.defaultPort? = none ↔ p ≠ .rtsp := by
  cases p <;> decide

/-- The same protocol is the only one with a resource. -/
theorem supportsResource_iff (p : Protocol) : p.supportsResource = true ↔ p = .rtsp := by
  cases p <;> decide

end Protocol

namespace Endpoint

/-! ## The parts of a URI -/

/-- The parts of which a URI of an endpoint consists. -/
structure UriParts where
  /-- The protocol, whose scheme stands in front. -/
  protocol : Protocol
  host : List Char
  /-- The port, if one is written. -/
  port : Option Nat
  /-- The path, with its slashes. -/
  path : List Char
  /-- The query, if there is a question mark. -/
  query : Option (List Char)

namespace UriParts

/-- Path and query, as they stand in a URI. -/
def resource (x : UriParts) : List Char := x.path ++ Url.optional '?' x.query

/-- The parts put together. -/
def text (x : UriParts) : List Char :=
  x.protocol.scheme.toList ++ "://".toList ++ x.host ++ Url.portSuffix x.port ++ x.resource

/-- The endpoint with these parts as its fields. -/
def endpoint (x : UriParts) : Endpoint where
  protocol := some x.protocol
  host := String.ofList x.host
  port := match x.port with
    | some n => Int32.ofNat n
    | none => -1
  resource := String.ofList x.resource

@[simp] theorem toList_host_endpoint (x : UriParts) : x.endpoint.host.toList = x.host :=
  String.toList_ofList

@[simp] theorem toList_resource_endpoint (x : UriParts) :
    x.endpoint.resource.toList = x.resource :=
  String.toList_ofList

/-- Whether parts make a URI. -/
structure IsValid (x : UriParts) : Prop where
  /-- The host is an IPv6 address in its canonical text and in brackets, or a name. -/
  host : Url.IsPlainHost x.host
  /-- The port is the number of a port. -/
  port_le : ∀ n ∈ x.port, n ≤ 65535
  /-- Only one protocol can go without a port. -/
  port_absent : x.port = none → x.protocol = .rtsp
  /-- There is no resource, or the protocol has one: a path without dots, behind which a query may
  stand that is not empty and has no second question mark, and only whole escapes in both. -/
  resource : (x.path = [] ∧ x.query = none) ∨
    (x.protocol = .rtsp ∧ Url.IsPlainPath x.path
      ∧ (∀ q ∈ x.query, q ≠ [] ∧ '?' ∉ q ∧ ∀ c ∈ q, Url.isQueryChar c = true)
      ∧ EscapesWhole x.resource)

/-- The URL with these parts. -/
def url (x : UriParts) : Url where
  scheme := x.protocol.scheme.toList
  host := some x.host
  port := x.port
  path := x.path
  query := x.query

theorem IsValid.path {x : UriParts} (h : x.IsValid) : x.path = [] ∨ Url.IsPlainPath x.path :=
  h.resource.imp And.left fun h => h.2.1

theorem IsValid.query {x : UriParts} (h : x.IsValid) :
    ∀ q ∈ x.query, ∀ c ∈ q, Url.isQueryChar c = true := by
  intro q hq
  rcases h.resource with ⟨-, hnone⟩ | ⟨-, -, hquery, -⟩
  · exact absurd hq (by simp [hnone])
  · exact (hquery q hq).2.2

/-- Valid parts make a plain URL. -/
theorem IsValid.isPlain {x : UriParts} (h : x.IsValid) : x.url.IsPlain where
  scheme := x.protocol.isPlainScheme
  noUserInfo := rfl
  host := ⟨x.host, rfl, h.host⟩
  port_le := h.port_le
  path := h.path
  query := h.query
  noFragment := rfl

theorem IsValid.text_url {x : UriParts} (h : x.IsValid) : x.url.text = x.text := by
  have hslashes : "://".toList = [':', '/', '/'] := rfl
  rw [h.isPlain.text_eq rfl, UriParts.text, UriParts.resource, hslashes]
  simp [url]

end UriParts

/-! ## Resources -/

/-- A resource with a plain path is cut where its query begins. -/
theorem span_resource {path : List Char} (hpath : ∀ c ∈ path, Url.isPathChar c = true)
    (query : Option (List Char)) :
    (path ++ Url.optional '?' query).span (· ≠ '?') = (path, Url.optional '?' query) := by
  refine Text.span_append_of_stop (fun c hc => ?_) fun c hc => ?_
  · have hascii := Url.ascii_of_isVisible (Url.isVisible_of_isPathChar (hpath c hc))
    exact forall_ascii (P := fun c => Url.isPathChar c = true → decide (c ≠ '?') = true)
      (by decide +kernel) hascii (hpath c hc)
  · cases query with
    | none => exact absurd hc (by simp [Url.optional])
    | some q =>
      obtain rfl : '?' = c := by simpa [Url.optional] using hc
      decide

/-- What is checked of a resource, for a plain path. -/
theorem isValidResource_iff {path : List Char} (hpath : ∀ c ∈ path, Url.isPathChar c = true)
    (query : Option (List Char)) :
    isValidResource (path ++ Url.optional '?' query) = true ↔
      path.head? = some '/' ∧ (∀ q ∈ query, q ≠ [] ∧ '?' ∉ q)
        ∧ EscapesWhole (path ++ Url.optional '?' query) := by
  simp only [isValidResource, span_resource hpath, Bool.and_eq_true, decide_eq_true_eq,
    escapesComplete_iff]
  cases query with
  | none => simp [Url.optional]
  | some q => simp [Url.optional, and_assoc]

theorem resource_eq_nil_iff {path : List Char} {query : Option (List Char)} :
    path ++ Url.optional '?' query = [] ↔ path = [] ∧ query = none := by
  cases query <;> simp [Url.optional]

/-! ## Endpoints of URLs -/

/-- What the two checks on a resource let pass. -/
theorem checkResource_eq_ok_iff {p : Protocol} {resource : List Char}
    {unsupported invalid : UriFault} {x : Except UriFault Endpoint} {e : Endpoint} :
    (if resource ≠ [] then
      if p.supportsResource = false then .error unsupported
      else if isValidResource resource = false then .error invalid
      else x
    else x) = .ok e ↔
      (resource ≠ [] → p = .rtsp ∧ isValidResource resource = true) ∧ x = .ok e := by
  by_cases hne : resource = []
  · simp [hne]
  · rw [if_pos hne, ite_error_eq_ok_iff, ite_error_eq_ok_iff, ← Protocol.supportsResource_iff]
    simp [hne, and_assoc]

/-- When a URL names an endpoint, and which one. -/
theorem ofUrl_eq_ok_iff {url : Url} {e : Endpoint} :
    ofUrl url = .ok e ↔
      url.cannotBeBase = false ∧ url.hasUserInfo = false ∧ url.fragment = none ∧
      ∃ p : Protocol, String.ofList url.scheme = p.scheme ∧ url.host.getD [] ≠ [] ∧
        (url.port = none → p = .rtsp) ∧
        (url.resource ≠ [] → p = .rtsp ∧ isValidResource url.resource = true) ∧
        e = { protocol := some p, host := String.ofList (url.host.getD [])
              port := match url.port with
                | some n => Int32.ofNat n
                | none => -1
              resource := String.ofList url.resource } := by
  unfold ofUrl
  simp only [bind, Except.bind, throw, throwThe, MonadExceptOf.throw, pure, Except.pure,
    ite_error_eq_ok_iff, Bool.not_eq_true, Option.isSome_eq_false_iff, Option.isNone_iff_eq_none]
  refine and_congr_right fun _ => and_congr_right fun _ => and_congr_right fun _ => ?_
  simp only [← Protocol.parse_eq_ok_iff]
  cases Protocol.parse (String.ofList url.scheme) with
  | error fault => simp
  | ok p =>
    rw [ite_error_eq_ok_iff]
    cases url.port with
    | some n =>
      simp only [checkResource_eq_ok_iff, Except.ok.injEq, exists_eq_left', reduceCtorEq,
        false_implies, true_and]
      rw [@eq_comm Endpoint e]
    | none =>
      simp only [checkResource_eq_ok_iff, ite_error_eq_ok_iff, Protocol.defaultPort?_eq_none_iff,
        not_ne_iff, Except.ok.injEq, exists_eq_left', true_implies]
      rw [@eq_comm Endpoint e]
      rfl

/-! ## Endpoints of texts -/

/-- A text is read in three steps: it is a URL, it is the text of that URL, and the URL names an
endpoint. -/
theorem parse_eq_ok_iff_ofUrl {u : String} {e : Endpoint} :
    parse u = .ok e ↔
      hasZeroByte u.toList = false ∧ u.toList ≠ [] ∧
        ∃ url, Url.parse u.toList = .ok url ∧ url.text = u.toList ∧ ofUrl url = .ok e := by
  rw [parse, ite_error_eq_ok_iff, ite_error_eq_ok_iff, Bool.not_eq_true]
  refine and_congr_right fun _ => and_congr_right fun _ => ?_
  cases Url.parse u.toList with
  | error fault => simp
  | ok url => simp only [ite_error_eq_ok_iff, not_not, ne_eq, Except.ok.injEq, exists_eq_left']

theorem UriParts.IsValid.ofUrl_url {x : UriParts} (h : x.IsValid) :
    ofUrl x.url = .ok x.endpoint := by
  rw [ofUrl_eq_ok_iff]
  refine ⟨rfl, rfl, rfl, x.protocol, String.ofList_toList, h.host.ne_nil, h.port_absent, ?_, rfl⟩
  intro hne
  rcases h.resource with ⟨hpath, hquery⟩ | ⟨hrtsp, hpath, hquery, hwhole⟩
  · exact absurd (resource_eq_nil_iff.mpr ⟨hpath, hquery⟩) hne
  · refine ⟨hrtsp, (isValidResource_iff hpath.chars x.query).mpr ⟨hpath.slash, ?_, hwhole⟩⟩
    exact fun q hq => ⟨(hquery q hq).1, (hquery q hq).2.1⟩

/-- Valid parts, put together, are read as the endpoint with these fields. -/
theorem UriParts.IsValid.parse_text {x : UriParts} (h : x.IsValid) :
    parse (String.ofList x.text) = .ok x.endpoint := by
  have hparse := Url.parse_text_of_isPlain h.isPlain
  have hvisible := h.isPlain.visible
  rw [h.text_url] at hparse hvisible
  rw [parse_eq_ok_iff_ofUrl, String.toList_ofList]
  refine ⟨?_, ?_, x.url, hparse, h.text_url, h.ofUrl_url⟩
  · rw [hasZeroByte, Bool.eq_false_iff, ne_eq, List.contains_iff_mem]
    intro hmem
    exact absurd (hvisible _ hmem) (by decide)
  · simp [UriParts.text]

/-- A text that is read as an endpoint is put together from valid parts. -/
theorem exists_uriParts_of_parse {u : String} {e : Endpoint} (h : parse u = .ok e) :
    ∃ x : UriParts, x.IsValid ∧ u.toList = x.text ∧ e = x.endpoint := by
  obtain ⟨-, -, url, hparse, htext, hurl⟩ := parse_eq_ok_iff_ofUrl.mp h
  obtain ⟨-, huser, hfragment, p, hscheme, hhost, hport, hresource, rfl⟩ := ofUrl_eq_ok_iff.mp hurl
  have hp : url.scheme = p.scheme.toList := by rw [← hscheme, String.toList_ofList]
  obtain ⟨host, hsome⟩ : ∃ host, url.host = some host := by
    cases hc : url.host with
    | none => exact absurd (by rw [hc]; rfl) hhost
    | some host => exact ⟨host, rfl⟩
  rw [hsome, Option.getD_some] at hhost
  have hplain : url.IsPlain :=
    Url.isPlain_of_parse hparse (hp ▸ p.isPlainScheme) huser hfragment hsome hhost
  obtain ⟨host', hsome', hplainHost⟩ := hplain.host
  obtain rfl : host = host' := Option.some.inj (hsome.symm.trans hsome')
  let x : UriParts := ⟨p, host, url.port, url.path, url.query⟩
  -- The URL was checked to be its own canonical text, so its parts are plain.
  have hvalid : x.IsValid := {
    host := hplainHost
    port_le := hplain.port_le
    port_absent := hport
    resource := by
      by_cases hne : url.resource = []
      · exact .inl (resource_eq_nil_iff.mp hne)
      · obtain ⟨hrtsp, hr⟩ := hresource hne
        obtain ⟨hslash, hquery, hwhole⟩ := (isValidResource_iff hplain.pathChars url.query).mp hr
        have hpath : Url.IsPlainPath url.path := by
          rcases hplain.path with hnil | hpath
          · exact absurd hslash (by rw [hnil]; decide)
          · exact hpath
        exact .inr ⟨hrtsp, hpath, fun q hq => ⟨(hquery q hq).1, (hquery q hq).2, hplain.query q hq⟩,
          hwhole⟩ }
  have hsame : url.text = x.url.text := by
    rw [hplain.text_eq hsome, hvalid.isPlain.text_eq rfl, hp]
    rfl
  exact ⟨x, hvalid, by rw [← htext, hsame, hvalid.text_url], by rw [hsome]; rfl⟩

/-- An endpoint is read from a text exactly if the text is put together from valid parts, and then
the fields of the endpoint are these parts. -/
theorem parse_eq_ok_iff_uriParts (u : String) (e : Endpoint) :
    parse u = .ok e ↔ ∃ x : UriParts, x.IsValid ∧ u.toList = x.text ∧ e = x.endpoint := by
  constructor
  · exact exists_uriParts_of_parse
  · rintro ⟨x, hvalid, hu, rfl⟩
    have h := hvalid.parse_text
    rwa [← hu, String.ofList_toList] at h

end Endpoint
end AudioLink
