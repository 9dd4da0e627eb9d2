import AudioLink.Peer.Basic
import AudioLink.Proofs.Endpoint.RoundTrip
import AudioLink.Proofs.Peer.Ledger

/-
What is checked before an engine is asked.

What can be wrong with an operation of a peer is listed here as data: each fault with the reason for
it, in the order in which they count. A check `Screens` such a list if it raises the first fault of it
that there is reason for, and yields something good if there is none; checks that are made one after
the other screen their lists one after the other. What is yielded in the end is what the engine may
be asked about, and it has been validated.
-/
set_option autoImplicit false

namespace AudioLink

/-! ## Faults in order -/

/-- An error, if there is reason for it. -/
def raisedIf (reason : Prop) [Decidable reason] (e : Error) : Option Error :=
  if reason then some e else none

/-- The first fault of a list. -/
def firstFault (faults : List (Option Error)) : Option Error := faults.findSome? id

/-- A check raises the first of these faults, or there is none and what it yields is good. -/
def Screens {α : Type} (faults : List (Option Error)) (good : α → Prop) (x : Except Error α) :
    Prop :=
  (∃ e, firstFault faults = some e ∧ x = .error e) ∨
    ∃ a, firstFault faults = none ∧ x = .ok a ∧ good a

namespace Screens

variable {α β : Type} {faults more : List (Option Error)} {good : α → Prop} {fine : β → Prop}

/-- The first fault of two lists of checks is one of the first list, if that has one. -/
theorem firstFault_append (faults more : List (Option Error)) :
    firstFault (faults ++ more) = (firstFault faults).or (firstFault more) :=
  List.findSome?_append

/-- What passes the checks is good. -/
theorem good_of_ok {x : Except Error α} {a : α} (hx : Screens faults good x) (hok : x = .ok a) :
    good a := by
  rcases hx with ⟨e, -, rfl⟩ | ⟨a', -, rfl, ha⟩
  · cases hok
  · rw [← Except.ok.inj hok]
    exact ha

/-- What raises no fault yields something good. -/
theorem of_good {a : α} (ha : good a) : Screens [] good (.ok a) := .inr ⟨a, rfl, rfl, ha⟩

/-- A check that stands in front of others. -/
theorem ite {reason c : Prop} [Decidable reason] [Decidable c] {e : Error} {x : Except Error α}
    (hreason : c ↔ reason) (hx : ¬ c → Screens faults good x) :
    Screens (raisedIf reason e :: faults) good (if c then .error e else x) := by
  by_cases hc : c
  · refine .inl ⟨e, ?_, if_pos hc⟩
    rw [raisedIf, if_pos (hreason.mp hc)]
    rfl
  · have hfirst : firstFault (raisedIf reason e :: faults) = firstFault faults := by
      rw [raisedIf, if_neg fun h => hc (hreason.mpr h)]
      rfl
    rw [Screens, hfirst, if_neg hc]
    exact hx hc

/-- Two checks, one after the other. -/
theorem bind {x : Except Error α} {f : α → Except Error β} (hx : Screens faults good x)
    (hf : ∀ a, good a → Screens more fine (f a)) : Screens (faults ++ more) fine (x >>= f) := by
  rw [Screens, firstFault_append]
  rcases hx with ⟨e, hfirst, rfl⟩ | ⟨a, hnone, rfl, ha⟩
  · rw [hfirst]
    exact .inl ⟨e, rfl, rfl⟩
  · rw [hnone]
    exact hf a ha

/-- A screen promises whatever follows from what it promises. -/
theorem imp {x : Except Error α} {good' : α → Prop} (hx : Screens faults good x)
    (himp : ∀ a, x = .ok a → good a → good' a) : Screens faults good' x := by
  rcases hx with hfault | ⟨a, hnone, hok, ha⟩
  · exact .inl hfault
  · exact .inr ⟨a, hnone, hok, himp a hok ha⟩

/-- What a check yields may be made into something else. -/
theorem map {x : Except Error α} {f : α → β} (hx : Screens faults good x)
    (hf : ∀ a, good a → fine (f a)) : Screens faults fine (x >>= fun a => .ok (f a)) := by
  rcases hx with ⟨e, hfirst, rfl⟩ | ⟨a, hnone, rfl, ha⟩
  · exact .inl ⟨e, hfirst, rfl⟩
  · exact .inr ⟨f a, hnone, rfl, hf a ha⟩

end Screens

/-! ## Arguments -/

namespace InterfaceConfig

/-- What can be wrong with an address. -/
def addressFaults (field : TextField) (address : String) : List (Option Error) := [
  raisedIf ('\x00' ∈ address.toList) (.zeroByte field),
  raisedIf (47 < address.utf8ByteSize) (.tooLong field address.utf8ByteSize 47)]

/-- What can be wrong with the options of an interface. -/
def faults (c : InterfaceConfig) : List (Option Error) :=
  addressFaults .outgoingAddress c.outgoingAddress ++ addressFaults .multicastGroup c.multicastGroup

/-- An address that an engine takes: it has no zero byte, and at most 47 bytes. -/
def IsAddress (address : String) : Prop := '\x00' ∉ address.toList ∧ address.utf8ByteSize ≤ 47

/-- The check of one address. -/
theorem screens_checkAddress (field : TextField) (address : String) :
    Screens (addressFaults field address) (fun _ => IsAddress address)
      (checkAddress field address) := by
  refine .ite List.contains_iff_mem fun hzero => .ite Iff.rfl fun hlong => .of_good ?_
  rw [List.contains_iff_mem] at hzero
  rw [maxAddressLength] at hlong
  exact ⟨hzero, by omega⟩

/-- The checks of the options of an interface: two addresses, in their order. -/
theorem screens_validate (c : InterfaceConfig) :
    Screens c.faults (fun _ => IsAddress c.outgoingAddress ∧ IsAddress c.multicastGroup)
      c.validate := by
  have hbind : c.validate = (checkAddress .outgoingAddress c.outgoingAddress >>= fun _ =>
      checkAddress .multicastGroup c.multicastGroup) := by
    rw [validate]
    cases checkAddress .outgoingAddress c.outgoingAddress <;> rfl
  rw [hbind]
  refine (screens_checkAddress _ _).bind fun _ houtgoing => ?_
  exact (screens_checkAddress _ _).imp fun _ _ hgroup => ⟨houtgoing, hgroup⟩

end InterfaceConfig

namespace Endpoint

/-- Why an endpoint has no URI. -/
def fault? (e : Endpoint) : Option Error :=
  match e.compose with
  | .ok _ => none
  | .error fault => some fault.toError

/-- An endpoint that has a URI, and therefore all that is needed to reach it. -/
structure HasUri (e : Endpoint) : Prop where
  composes : ∃ uri, e.compose = .ok uri
  protocol : e.protocol ≠ none
  host : e.host ≠ ""
  port : e.effectivePort? ≠ none

/-- An endpoint that composes has a text. -/
theorem hasUri_of_compose {e : Endpoint} {uri : String} (h : e.compose = .ok uri) : e.HasUri := by
  obtain ⟨text, hassemble, -⟩ := bind_eq_ok_iff.mp h
  obtain ⟨p, hprotocol, -, -, hhost, port, hport, -⟩ := assemble_eq_ok_iff.mp hassemble
  have hset : e.protocol ≠ none := by
    rw [hprotocol]
    exact Option.some_ne_none p
  refine ⟨⟨uri, h⟩, hset, hhost, ?_⟩
  rw [effectivePort?, hprotocol, Option.bind_some]
  rw [portText] at hport
  by_cases husual : e.port = portUnspecified
  · rw [if_pos husual] at hport ⊢
    obtain ⟨hdefault, -⟩ := ite_error_eq_ok_iff.mp hport
    exact fun hnone => hdefault (Option.isNone_iff_eq_none.mpr hnone)
  · rw [if_neg husual] at hport ⊢
    by_cases hnumber : isPortNumber e.port = true
    · rw [if_pos hnumber]
      exact Option.some_ne_none _
    · rw [if_neg hnumber] at hport
      cases hport

end Endpoint

namespace SlotTable

/-- What can be in the way of working on an interface. -/
def faults (t : SlotTable) (slot : Slot) (i : Interface) : List (Option Error) := [
  raisedIf (t.isBroken slot) (.slotBroken slot),
  raisedIf (t.state? slot i = some .linked) (.interfaceLinked slot i),
  raisedIf (∃ j ∈ Interface.all, t.state? slot j ≠ none ∧ i.compatible j = false)
    (.interfaceConflict slot i)]

/-- The check that an interface is usable, told by the ledger of the table. -/
theorem screens_checkUsable (t : SlotTable) (slot : Slot) (i : Interface) :
    Screens (t.faults slot i) (fun _ => t.ledger.Usable slot i) (t.checkUsable slot i) := by
  -- The check goes by the record of the slot, and the faults by what anybody can ask of the table.
  have hstate (j : Interface) : (t.record slot).interfaces.get? j = t.state? slot j := by
    rw [state?_eq, view_ledger]
    rfl
  have hchecks : Screens (t.faults slot i) (fun _ => True) (t.checkUsable slot i) := by
    refine .ite Iff.rfl fun _ => .ite (by rw [hstate]) fun _ => .ite ?_ fun _ => .of_good trivial
    rw [PerInterface.keys, List.any_filter, List.any_eq_true]
    simp only [hstate, Bool.and_eq_true, Bool.not_eq_true', Option.isSome_iff_ne_none]
  exact hchecks.imp fun _ hok _ => (t.checkUsable_eq_ok_iff slot i).mp hok

end SlotTable

/-! ## What is checked before a call -/

/-- What has been validated of a request when an engine is asked. -/
def Request.Validated : Request → Prop
  | .configure _ _ _ config =>
    InterfaceConfig.IsAddress config.outgoingAddress ∧
      InterfaceConfig.IsAddress config.multicastGroup
  | .bind _ _ _ endpoint | .connect _ _ _ endpoint => endpoint.HasUri
  | .read _ length => length ≠ 0
  | .write _ frame => frame ≠ []
  | _ => True

namespace Peer

/-- What can be wrong with the options of an interface, or be in the way of setting them. -/
def configureFaults (p : Peer) (slot : Slot) (i : Interface) (config : InterfaceConfig) :
    List (Option Error) :=
  raisedIf p.isClosed .peerClosed :: (config.faults ++ p.slots.faults slot i)

/-- What can be wrong with an endpoint, or be in the way of binding or connecting it. -/
def linkFaults (p : Peer) (slot : Slot) (i : Interface) (endpoint : Option Endpoint) :
    List (Option Error) :=
  raisedIf p.isClosed .peerClosed :: raisedIf endpoint.isNone .endpointMissing ::
    endpoint.bind Endpoint.fault? :: p.slots.faults slot i

/-- What can be in the way of taking down a slot. -/
def unlinkFaults (p : Peer) (slot : Slot) : List (Option Error) :=
  [raisedIf p.isClosed .peerClosed, raisedIf (¬ p.slots.contains slot) (.unknownSlot slot)]

/-- What can be in the way of reading or writing a frame. -/
def frameFaults {α : Type} (p : Peer) (frame : Option α) : List (Option Error) :=
  [raisedIf p.isClosed .peerClosed, raisedIf frame.isNone .frameMissing]

variable (p : Peer)

/-- The check that a peer is open. -/
theorem screens_requireOpen :
    Screens [raisedIf p.isClosed .peerClosed] (fun h => p.handle = some h) p.requireOpen := by
  rw [requireOpen, isClosed]
  cases p.handle with
  | none => exact .inl ⟨.peerClosed, rfl, rfl⟩
  | some h => exact .inr ⟨h, rfl, rfl, rfl⟩

/-- All checks in front of configuring, in their order. -/
theorem screens_admitConfigure (slot : Slot) (i : Interface) (config : InterfaceConfig) :
    Screens (p.configureFaults slot i config)
      (fun h => p.handle = some h ∧ p.slots.ledger.Usable slot i ∧
        (Request.configure h slot i config).Validated)
      (p.admitConfigure slot i config) := by
  refine p.screens_requireOpen.bind fun h hopen => ?_
  refine config.screens_validate.bind fun _ hvalid => ?_
  exact (p.slots.screens_checkUsable slot i).map fun _ husable => ⟨hopen, husable, hvalid⟩

/-- All checks in front of a link, in their order. -/
theorem screens_admitLink (slot : Slot) (i : Interface) (endpoint : Option Endpoint) :
    Screens (p.linkFaults slot i endpoint)
      (fun x => p.handle = some x.1 ∧ p.slots.ledger.Usable slot i ∧ endpoint = some x.2 ∧
        x.2.HasUri)
      (p.admitLink slot i endpoint) := by
  refine p.screens_requireOpen.bind fun h hopen => ?_
  cases endpoint with
  | none => exact .inl ⟨.endpointMissing, rfl, rfl⟩
  | some e =>
    -- The URI is thrown away here: all that counts is that there is one.
    cases hcompose : e.compose with
    | error fault =>
      have hfault : e.fault? = some fault.toError := by rw [Endpoint.fault?, hcompose]
      simp only [pure_bind, hcompose, Option.bind_some, hfault]
      exact .inl ⟨fault.toError, rfl, rfl⟩
    | ok uri =>
      have hfault : e.fault? = none := by rw [Endpoint.fault?, hcompose]
      simp only [pure_bind, hcompose, Option.bind_some, hfault]
      exact (p.slots.screens_checkUsable slot i).map fun _ husable =>
        ⟨hopen, husable, rfl, Endpoint.hasUri_of_compose hcompose⟩

/-- All checks in front of unlinking, in their order. -/
theorem screens_admitUnlink (slot : Slot) :
    Screens (p.unlinkFaults slot) (fun h => p.handle = some h ∧ p.slots.ledger slot ≠ none)
      (p.admitUnlink slot) := by
  refine p.screens_requireOpen.bind fun h hopen => ?_
  by_cases hslot : p.slots.contains slot = true
  · rw [if_pos hslot, raisedIf, if_neg (not_not.mpr hslot)]
    exact .inr ⟨h, rfl, rfl, hopen, (SlotTable.contains_iff _ _).mp hslot⟩
  · rw [if_neg hslot, raisedIf, if_pos hslot]
    exact .inl ⟨.unknownSlot slot, rfl, rfl⟩

/-- All checks in front of a frame, in their order. -/
theorem screens_admitFrame {α : Type} (frame : Option α) :
    Screens (p.frameFaults frame) (fun x => p.handle = some x.1 ∧ frame = some x.2)
      (p.admitFrame frame) := by
  refine p.screens_requireOpen.bind fun h hopen => ?_
  cases frame with
  | none => exact .inl ⟨.frameMissing, rfl, rfl⟩
  | some f => exact .inr ⟨(h, f), rfl, rfl, hopen, rfl⟩

end Peer

end AudioLink
