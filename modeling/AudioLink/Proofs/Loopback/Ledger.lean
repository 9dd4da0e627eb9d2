import AudioLink.Loopback.Engine
import AudioLink.Proofs.Peer.Operation

/-
What the loopback engine keeps of the slots of its peers, as ledgers.

`State.view` is all that matters here of a state of the engine: which peers there are, of which kind
each of them is, and what its slots say. A request about a peer changes the view of this peer only;
if it is one that a peer of this kind makes, and is admitted by its ledger, then the ledger follows
the call as the ledger of a slot table does. Sockets, packets and clocks do not matter.
-/
set_option autoImplicit false

namespace AudioLink.Loopback

/-! ## Failure codes -/

/-- Whether an answer keeps the contract. -/
def IsProper {α : Type} (answer : Answer α) : Prop :=
  ∀ code, answer = .error code → code.isNegative = true

section IsProper

variable {α β : Type}

/-- An answer that is no refusal has no code to keep the contract with. -/
theorem isProper_ok (a : α) : IsProper (.ok a) := nofun

/-- A refusal keeps the contract if its code is negative. -/
theorem isProper_error {code : EngineCode} (h : code.isNegative = true) :
    IsProper (.error code : Answer α) := by
  rintro code' heq
  rw [← Except.error.inj heq, h]

/-- The contract goes through a chain of requests: the first refusal is the answer. -/
theorem IsProper.bind {x : Answer α} {f : α → Answer β} (hx : IsProper x)
    (hf : ∀ a, IsProper (f a)) : IsProper (x >>= f) := by
  cases x with
  | ok a => exact hf a
  | error code => exact isProper_error (hx code rfl)

/-- A text that is no address is refused by a negative code. -/
theorem isProper_address? (text : String) : IsProper (address? text) := by
  unfold address?
  dsimp only
  split
  · exact isProper_ok _
  · split
    · exact isProper_ok _
    · exact isProper_error rfl

/-- A host that resolves to nothing is refused by a negative code, as is a port that is not
there, whatever the machine makes of host names. -/
theorem isProper_resolve (host : Host) (endpoint : Endpoint) (allowAnyPort : Bool) :
    IsProper (resolve host endpoint allowAnyPort) := by
  unfold resolve
  split
  · exact isProper_error rfl
  · split
    · exact isProper_error rfl
    · split
      · exact isProper_ok _
      · exact isProper_error rfl

/-- Each of the three checks in front of a link refuses by a negative code. -/
theorem isProper_checkLink (s : SlotState) (i : Interface) (endpoint : Endpoint) :
    IsProper (checkLink s i endpoint) := by
  unfold checkLink
  split
  · exact isProper_error rfl
  · split
    · exact isProper_error rfl
    · split
      · exact isProper_error rfl
      · exact isProper_ok _

/-- A machine that gives no socket is answered for by a negative code. -/
theorem isProper_opened (m : Machine) (socket : Option (SocketId × Network)) :
    IsProper (opened m socket) := by
  cases socket with
  | none => exact isProper_error rfl
  | some x => exact isProper_ok _

/-- All that binding an interface does refuses by negative codes. -/
theorem isProper_bindLink (m : Machine) (s : SlotState) (i : Interface) (endpoint : Endpoint) :
    IsProper (bindLink m s i endpoint) := by
  refine (isProper_checkLink s i endpoint).bind fun _ => ?_
  refine (isProper_resolve m.host endpoint true).bind fun _ => ?_
  refine (isProper_address? _).bind fun _ => ?_
  refine (isProper_opened m _).bind fun x => ?_
  dsimp only
  split
  · exact isProper_ok _
  · exact isProper_error rfl

/-- All that connecting an interface does refuses by negative codes. -/
theorem isProper_connectLink (m : Machine) (fec : FecEncoding) (s : SlotState) (i : Interface)
    (endpoint : Endpoint) : IsProper (connectLink m fec s i endpoint) := by
  refine (isProper_checkLink s i endpoint).bind fun protocol => ?_
  dsimp only
  split
  · exact isProper_error rfl
  · refine (isProper_resolve m.host endpoint false).bind fun _ => ?_
    refine (isProper_address? _).bind fun _ => ?_
    refine (isProper_address? _).bind fun _ => ?_
    exact isProper_opened m _

end IsProper

/-! ## Slots and peers -/

/-- What a slot of the engine says: an interface with a socket is linked, and one with options only
is configured. -/
def SlotState.view (s : SlotState) : SlotView where
  broken := s.broken
  states i :=
    if (s.links.get? i).isSome then some .linked
    else if (s.configs.get? i).isSome then some .configured
    else none

/-- What has a link is linked, with options or without. -/
theorem SlotState.states_eq_linked_iff (s : SlotState) (i : Interface) :
    s.view.states i = some .linked ↔ (s.links.get? i).isSome = true := by
  cases hlink : s.links.get? i with
  | some link => simp [view, hlink]
  | none => cases hconfig : s.configs.get? i <;> simp [view, hlink, hconfig]

/-- What has options and no link is configured. -/
theorem SlotState.states_eq_configured_iff (s : SlotState) (i : Interface) :
    s.view.states i = some .configured ↔
      (s.configs.get? i).isSome = true ∧ s.links.get? i = none := by
  cases hlink : s.links.get? i with
  | some link => simp [view, hlink]
  | none => cases hconfig : s.configs.get? i <;> simp [view, hlink, hconfig]

/-- Spoiling a slot changes nothing else of what it says. -/
theorem SlotState.view_spoil (s : SlotState) : s.spoil.view = { s.view with broken := true } := rfl

/-- Options make an interface configured. It must have no link, which would hide them. -/
theorem SlotState.view_setConfig (s : SlotState) {i : Interface} (config : InterfaceConfig)
    (hfree : s.links.get? i = none) :
    ({ s with configs := s.configs.set i config } : SlotState).view =
      { s.view with states := fun j => if j = i then some .configured else s.view.states j } := by
  ext j
  · rfl
  · by_cases hj : j = i
    · subst hj
      simp [view, hfree]
    · simp [view, hj]

/-- A link makes an interface linked, whatever it was. -/
theorem SlotState.view_setLink (s : SlotState) (i : Interface) (link : Link) :
    ({ s with links := s.links.set i link } : SlotState).view =
      { s.view with states := fun j => if j = i then some .linked else s.view.states j } := by
  ext j
  · rfl
  · by_cases hj : j = i
    · subst hj
      simp [view]
    · simp [view, hj]

namespace Flow

/-- The kind of peer that moves samples in this way. -/
def kind : Flow → PeerKind
  | sending _ _ _ => .sender
  | receiving _ => .receiver

/-- The flow of a receiver is a queue that plays. -/
theorem exists_of_kind_eq_receiver {flow : Flow} (hkind : flow.kind = .receiver) :
    ∃ p, flow = receiving p := by
  cases flow with
  | sending fec stream p => exact absurd hkind nofun
  | receiving p => exact ⟨p, rfl⟩

/-- Forgetting a slot makes no other kind of peer. -/
theorem kind_forget (flow : Flow) (slot : Slot) : (flow.forget slot).kind = flow.kind := by
  cases flow <;> rfl

/-- Taking what waits at the sockets makes no other kind of peer. -/
theorem kind_collectFlow (m : Machine) (q : PeerState) :
    (collectFlow m q).1.kind = q.flow.kind := by
  unfold collectFlow
  cases q.flow <;> rfl

end Flow

namespace PeerState

/-- The kind of a peer. -/
def kind (q : PeerState) : PeerKind := q.flow.kind

/-- What the slots of a peer say. -/
def ledger (q : PeerState) : Ledger := fun slot => (q.slots.get? slot).map SlotState.view

/-- A slot that is not there is seen as the empty slot, by the engine and by its ledger. -/
theorem view_ledger (q : PeerState) (slot : Slot) : q.ledger.view slot = (q.slot slot).view := by
  rw [Ledger.view, ledger, PeerState.slot]
  cases q.slots.get? slot with
  | none =>
    ext i
    · rfl
    · cases i <;> rfl
  | some s => rfl

/-- The ledger has the slots that the engine has. -/
theorem contains_iff (q : PeerState) (slot : Slot) :
    q.slots.contains slot = true ↔ q.ledger slot ≠ none := by
  rw [Table.contains, ledger, Option.isSome_iff_ne_none, ne_eq, ne_eq, Option.map_eq_none_iff]

/-- Putting a slot changes the ledger at this slot only. -/
theorem ledger_setSlot (q : PeerState) (slot : Slot) (s : SlotState) :
    (q.setSlot slot s).ledger = q.ledger.put slot (some s.view) := by
  funext other
  rw [ledger, setSlot, Ledger.put, Table.get?_insert]
  by_cases hother : other = slot
  · rw [if_pos hother, if_pos hother, Option.map_some]
  · rw [if_neg hother, if_neg hother, ledger]

/-- Erasing a slot erases it from the ledger, and the flow is no part of it. -/
theorem ledger_erase (q : PeerState) (slot : Slot) (flow : Flow) :
    ledger { q with slots := q.slots.erase slot, flow } = q.ledger.put slot none := by
  funext other
  rw [ledger, Ledger.put, Table.get?_erase]
  by_cases hother : other = slot
  · rw [if_pos hother, if_pos hother, Option.map_none]
  · rw [if_neg hother, if_neg hother, ledger]

/-- What a usable interface is for the engine: its slot is not broken, and it has no link. -/
theorem of_usable {q : PeerState} {slot : Slot} {i : Interface} (h : q.ledger.Usable slot i) :
    ¬ (q.slot slot).broken = true ∧ (q.slot slot).links.get? i = none := by
  have hwhole := h.whole
  have hunlinked := h.unlinked
  rw [view_ledger] at hwhole hunlinked
  refine ⟨Bool.not_eq_true _ ▸ hwhole, ?_⟩
  by_cases hlink : ((q.slot slot).links.get? i).isSome = true
  · exact absurd (if_pos hlink) hunlinked
  · exact Option.not_isSome_iff_eq_none.mp hlink

/-- The ledger follows a slot that breaks. -/
theorem ledger_spoil (q : PeerState) (slot : Slot) :
    (q.setSlot slot (q.slot slot).spoil).ledger = q.ledger.spoil slot := by
  rw [ledger_setSlot, SlotState.view_spoil, Ledger.spoil, view_ledger]

/-- The ledger follows an interface without a link that gets options. -/
theorem ledger_setConfig (q : PeerState) {slot : Slot} {i : Interface} (config : InterfaceConfig)
    (hfree : (q.slot slot).links.get? i = none) :
    (q.setSlot slot { q.slot slot with configs := (q.slot slot).configs.set i config }).ledger =
      q.ledger.reach slot i .configured := by
  rw [ledger_setSlot, SlotState.view_setConfig _ config hfree, Ledger.reach, view_ledger]

/-- The ledger follows an interface that gets a link. -/
theorem ledger_setLink (q : PeerState) (slot : Slot) (i : Interface) (link : Link) :
    (q.setSlot slot { q.slot slot with links := (q.slot slot).links.set i link }).ledger =
      q.ledger.reach slot i .linked := by
  rw [ledger_setSlot, SlotState.view_setLink, Ledger.reach, view_ledger]

end PeerState

end AudioLink.Loopback
