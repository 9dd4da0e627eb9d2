import AudioLink.Proofs.Peer.Operation

/-
Endpoints that change their port.

Binding writes the port that was bound into the endpoint of the caller, who may have asked for any
free one, or for the usual one. Nothing but the port changes, and an endpoint that had a URI before
has one behind: the parts of a URI are valid each for itself, and only the absence of a port says
anything about another part. So the new URI has the new port in the place of the old one, and is
otherwise the same text.
-/
set_option autoImplicit false

namespace AudioLink
namespace Endpoint

/-- The endpoint with another port. -/
def withPort (e : Endpoint) (port : UInt16) : Endpoint :=
  { e with port := Int32.ofNat port.toNat }

/-- What stands in a URI for a port: nothing for the usual one. -/
def portPart (port : Int32) : List Char :=
  if port = portUnspecified then [] else ':' :: Digits.decimal port.toInt.toNat

/-- What stands in a URI in front of the port. -/
def origin (e : Endpoint) (p : Protocol) : List Char :=
  p.scheme.toList ++ "://".toList ++ e.host.toList

variable {e : Endpoint} {u : String}

/-! ## Port numbers -/

theorem toNat_le (port : UInt16) : port.toNat ≤ 65535 := Nat.le_of_lt_succ port.toNat_lt_size

theorem portPart_withPort (e : Endpoint) (port : UInt16) :
    portPart (e.withPort port).port = ':' :: Digits.decimal port.toNat := by
  rw [portPart, withPort, if_neg (ofNat_ne_portUnspecified (toNat_le port)),
    toInt_ofNat (toNat_le port), Int.toNat_natCast]

theorem effectivePort?_withPort (e : Endpoint) (port : UInt16) :
    (e.withPort port).effectivePort? = some port := by
  rw [effectivePort?, withPort, if_neg (ofNat_ne_portUnspecified (toNat_le port)),
    if_pos (isPortNumber_ofNat (toNat_le port)), toInt_ofNat (toNat_le port), Int.toNat_natCast,
    UInt16.ofNat_toNat]

/-- A port value that is the number of a port is one of 16 bits. -/
theorem exists_toNat_of_isPortNumber {port : Int32} (h : isPortNumber port = true) :
    ∃ n : UInt16, port = Int32.ofNat n.toNat := by
  rw [isPortNumber, Bool.and_eq_true, decide_eq_true_eq, decide_eq_true_eq,
    Int32.le_iff_toInt_le, Int32.le_iff_toInt_le] at h
  have hmin : 0 ≤ port.toInt := h.1
  have hmax : port.toInt ≤ 65535 := h.2
  have hnat : (UInt16.ofNat port.toInt.toNat).toNat = port.toInt.toNat :=
    UInt16.toNat_ofNat_of_lt (show port.toInt.toNat < 65536 by omega)
  refine ⟨UInt16.ofNat port.toInt.toNat, Int32.toInt_inj.mp ?_⟩
  rw [hnat, toInt_ofNat (by omega), Int.toNat_of_nonneg hmin]

/-! ## URIs -/

namespace UriParts

/-- The parts with another port. -/
def withPort (x : UriParts) (port : UInt16) : UriParts := { x with port := some port.toNat }

theorem endpoint_withPort (x : UriParts) (port : UInt16) :
    (x.withPort port).endpoint = x.endpoint.withPort port := rfl

/-- No part but the port is valid by what the port is. -/
theorem IsValid.withPort {x : UriParts} (h : x.IsValid) (port : UInt16) :
    (x.withPort port).IsValid where
  host := h.host
  port_le n hn := by
    obtain rfl : port.toNat = n := Option.some.inj hn
    exact toNat_le port
  port_absent hnone := absurd hnone (Option.some_ne_none _)
  resource := h.resource

end UriParts

/-- An endpoint with a URI has one with every other port as well. -/
theorem exists_compose_withPort (h : compose e = .ok u) (port : UInt16) :
    ∃ u', compose (e.withPort port) = .ok u' := by
  -- A composed URI can be read, so it has valid parts. With another port they are valid again, their
  -- text is read as the new endpoint, and an endpoint that can be read can be composed.
  obtain ⟨x, hvalid, -, rfl⟩ := exists_uriParts_of_parse (parse_of_compose h)
  have hparse := (hvalid.withPort port).parse_text
  rw [UriParts.endpoint_withPort] at hparse
  exact ⟨_, compose_of_parse hparse⟩

/-- What a URI is put together from. -/
theorem toList_of_compose (h : compose e = .ok u) :
    ∃ p, e.protocol = some p ∧ u.toList = e.origin p ++ portPart e.port ++ e.resource.toList :=
  fields_of_parse (parse_of_compose h)

/-- The URIs of an endpoint before and after its port has changed are the same in front of the port
and behind it. -/
theorem toList_withPort {u' : String} {port : UInt16} (h : compose e = .ok u)
    (h' : compose (e.withPort port) = .ok u') :
    ∃ p, e.protocol = some p ∧ u.toList = e.origin p ++ portPart e.port ++ e.resource.toList ∧
      u'.toList = e.origin p ++ ':' :: Digits.decimal port.toNat ++ e.resource.toList := by
  obtain ⟨p, hp, hu⟩ := toList_of_compose h
  obtain ⟨p', hp', hu'⟩ := toList_of_compose h'
  obtain rfl : p = p' := Option.some.inj (hp.symm.trans hp')
  rw [portPart_withPort] at hu'
  exact ⟨p, hp, hu, hu'⟩

theorem text_of_compose (h : compose e = .ok u) : e.text = u := by
  rw [text, h]

end Endpoint

/-! ## Binding -/

/-- An endpoint with a URI is no reason to refuse a link. -/
theorem Peer.admitLink_of_compose {p : Peer} {h : PeerHandle} {slot : Slot} {i : Interface}
    {e : Endpoint} {u : String} (hopen : p.handle = some h)
    (husable : p.slots.checkUsable slot i = .ok ()) (hcompose : e.compose = .ok u) :
    p.admitLink slot i (some e) = .ok (h, e) := by
  rw [admitLink, requireOpen, hopen]
  simp only [Bind.bind, Except.bind, pure, Except.pure, hcompose, husable]

namespace Endpoint

/-- An endpoint that has a URI has one with every port. The new URI is the old one with the new port
in the place of its port, or where it had none; the new port is the one on the wire; and the new URI
is read as the new endpoint. So when a binding works and the engine names a port of 16 bits, then the
endpoint of the caller is shown as a URI that is read back, and every open peer with a usable slot
takes it for a link. -/
theorem uri_with_port {σ : Type} (engine : Engine σ) :
    (∀ (e : Endpoint) (u : String) (port : UInt16), e.compose = .ok u →
      ∃ p u', e.protocol = some p ∧ (e.withPort port).compose = .ok u' ∧
        u.toList = e.origin p ++ portPart e.port ++ e.resource.toList ∧
        u'.toList = e.origin p ++ ':' :: Digits.decimal port.toNat ++ e.resource.toList ∧
        (e.withPort port).effectivePort? = some port ∧ parse u' = .ok (e.withPort port)) ∧
    (∀ (p : Peer) (slot : Slot) (i : Interface) (endpoint : Option Endpoint) (s : σ)
      (bound : Endpoint), (p.bind engine slot i endpoint s).1 = .ok bound →
      isPortNumber bound.port = true →
      ∃ e port u, endpoint = some e ∧ bound = e.withPort port ∧ bound.compose = .ok u ∧
        bound.text = u ∧ parse u = .ok bound ∧
        ∀ (q : Peer) (h : PeerHandle) (slot : Slot) (i : Interface), q.handle = some h →
          q.slots.checkUsable slot i = .ok () → q.admitLink slot i (some bound) = .ok (h, bound)) := by
  constructor
  · intro e u port hcompose
    obtain ⟨u', hcompose'⟩ := exists_compose_withPort hcompose port
    obtain ⟨p, hp, hu, hu'⟩ := toList_withPort hcompose hcompose'
    exact ⟨p, u', hp, hcompose', hu, hu', effectivePort?_withPort e port,
      parse_of_compose hcompose'⟩
  · intro p slot i endpoint s bound hbound hnumber
    -- A binding changes the port only, so what was bound is the given endpoint with another port.
    obtain ⟨e, port, hgiven, huri, rfl⟩ := Peer.endpoint_of_bind hbound
    obtain ⟨n, hn⟩ : ∃ n : UInt16, port = Int32.ofNat n.toNat :=
      exists_toNat_of_isPortNumber hnumber
    subst hn
    obtain ⟨u, hcompose⟩ := huri.composes
    obtain ⟨u', hcompose'⟩ := exists_compose_withPort hcompose n
    exact ⟨e, n, u', hgiven, rfl, hcompose', text_of_compose hcompose',
      parse_of_compose hcompose', fun q h slot i hopen husable =>
        Peer.admitLink_of_compose hopen husable hcompose'⟩

/-- An address with its path and query is bound at its usual port, and the engine names another
one. -/
theorem uri_with_port_bound :
    let engine : Engine (Staged Unit) := Engine.staged fun _ s => (.error ⟨-1⟩, s)
    let receiver : Peer := { kind := .receiver, handle := some ⟨7⟩ }
    let sender : Peer := { kind := .sender, handle := some ⟨8⟩ }
    let bound : Endpoint := ⟨some .rtsp, "[::1]", 49170, "/a%2F?b"⟩
    (receiver.bind engine ⟨0⟩ .consolidated (some ⟨some .rtsp, "[::1]", -1, "/a%2F?b"⟩)
        { inner := (), script := [(.peerBind, .bound 49170)] }).1 = .ok bound ∧
      bound.text = "rtsp://[::1]:49170/a%2F?b" ∧
      sender.admitLink ⟨0⟩ .consolidated (some bound) = .ok (⟨8⟩, bound) := by
  intro engine receiver sender bound
  have hbound : (receiver.bind engine ⟨0⟩ .consolidated (some ⟨some .rtsp, "[::1]", -1, "/a%2F?b"⟩)
      { inner := (), script := [(.peerBind, .bound 49170)] }).1 = .ok bound := by
    decide +kernel
  obtain ⟨-, -, u, -, -, hcompose, htext, -, hlink⟩ :=
    (uri_with_port engine).2 receiver _ _ _ _ bound hbound (by decide)
  have huri : bound.compose = .ok "rtsp://[::1]:49170/a%2F?b" := by
    decide +kernel
  obtain rfl : u = "rtsp://[::1]:49170/a%2F?b" := Except.ok.inj (hcompose.symm.trans huri)
  exact ⟨hbound, htext, hlink sender ⟨8⟩ _ _ rfl (by decide)⟩

end Endpoint
end AudioLink
