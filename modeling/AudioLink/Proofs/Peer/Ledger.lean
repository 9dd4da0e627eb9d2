import AudioLink.Engine.Recorder
import AudioLink.Peer.SlotTable
import AudioLink.Proofs.Checks

/-
What engine calls say of the slots of a peer.

A ledger says of each slot whether it is in use, whether it is broken, and what has been done with
each of its interfaces. It is kept by looking at calls and their outcomes alone: `Ledger.after` is
the whole of its bookkeeping, and `Ledger.Admits` says which calls are made at all. Slot tables and
the slots of an engine are both compared with ledgers, so that neither is explained by the other.
-/
set_option autoImplicit false

namespace AudioLink

/-! ## Calls -/

namespace Request

/-- The peer that a request is about. -/
def peer? : Request → Option PeerHandle
  | configure h _ _ _ | bind h _ _ _ | connect h _ _ _ | unlink h _ | peerClose h | read h _
  | write h _ => some h
  | _ => none

/-- Whether a request configures, binds or connects this interface of this slot. -/
def Touches (slot : Slot) (i : Interface) : Request → Prop
  | configure _ s j _ | bind _ s j _ | connect _ s j _ => s = slot ∧ j = i
  | _ => False

/-- Whether a request binds or connects this interface of this slot. -/
def Links (slot : Slot) (i : Interface) : Request → Prop
  | bind _ s j _ | connect _ s j _ => s = slot ∧ j = i
  | _ => False

end Request

/-- A request that links an interface touches it. -/
theorem Request.Links.touches {r : Request} {slot : Slot} {i : Interface} (h : r.Links slot i) :
    r.Touches slot i := by
  cases r with
  | bind | connect => exact h
  | _ => exact h.elim

namespace Call

/-- Whether a call has freed this slot. -/
def Unlinks (c : Call) (slot : Slot) : Prop := (∃ h, c.request = .unlink h slot) ∧ c.failure = none

/-- Whether a call has closed its peer. -/
def ClosesPeer (c : Call) : Prop := (∃ h, c.request = .peerClose h) ∧ c.failure = none

/-- Whether a call was refused with a code that keeps the contract. -/
def isRefused (c : Call) : Bool := c.failure.any EngineCode.isNegative

end Call

/-! ## Ledgers -/

/-- What is known of a slot. -/
@[ext]
structure SlotView where
  /-- Whether a call on the slot has failed. -/
  broken : Bool := false
  /-- What has been done with its interfaces. -/
  states : Interface → Option InterfaceState := fun _ => none

/-- What is known of each slot, and nothing of a slot that is not in use. -/
abbrev Ledger := Slot → Option SlotView

namespace Ledger

/-- No slot is in use. -/
def empty : Ledger := fun _ => none

/-- The ledger with another entry for one slot. -/
def put (l : Ledger) (slot : Slot) (v : Option SlotView) : Ledger :=
  fun other => if other = slot then v else l other

/-- What is known of a slot, in use or not. -/
def view (l : Ledger) (slot : Slot) : SlotView := (l slot).getD {}

/-- An interface of a slot has reached a state. -/
def reach (l : Ledger) (slot : Slot) (i : Interface) (state : InterfaceState) : Ledger :=
  l.put slot (some { l.view slot with
    states := fun j => if j = i then some state else (l.view slot).states j })

/-- A call on a slot has failed. -/
def spoil (l : Ledger) (slot : Slot) : Ledger :=
  l.put slot (some { l.view slot with broken := true })

/-- The ledger after a call that was to bring an interface into a state. A failure code that breaks
the contract says nothing. -/
def note (l : Ledger) (slot : Slot) (i : Interface) (state : InterfaceState) :
    Option EngineCode → Ledger
  | none => l.reach slot i state
  | some code => if code.isNegative then l.spoil slot else l

/-- The ledger after a call. -/
def after (l : Ledger) (c : Call) : Ledger :=
  match c.request, c.failure with
  | .configure _ slot i _, failure => l.note slot i .configured failure
  | .bind _ slot i _, failure | .connect _ slot i _, failure => l.note slot i .linked failure
  | .unlink _ slot, none => l.put slot none
  | .peerClose _, none => empty
  | _, _ => l

/-- The ledger after several calls, from the oldest to the newest, with no slot in use before. -/
def replay (calls : List Call) : Ledger := calls.foldl after empty

/-- Whether an interface of a slot may be configured or linked: the slot is not broken, the interface
is not linked, and all interfaces of the slot that something has been done with go with it. -/
structure Usable (l : Ledger) (slot : Slot) (i : Interface) : Prop where
  whole : (l.view slot).broken = false
  unlinked : (l.view slot).states i ≠ some .linked
  /-- No interface of the slot excludes it. -/
  compatible : ∀ j, (l.view slot).states j ≠ none → i.compatible j = true

/-- Whether a request is made at all. -/
def Admits (l : Ledger) : Request → Prop
  | .configure _ slot i _ | .bind _ slot i _ | .connect _ slot i _ => l.Usable slot i
  | .unlink _ slot => l slot ≠ none
  | _ => True

/-! ### What a call changes -/

@[simp] theorem put_self (l : Ledger) (slot : Slot) (v : Option SlotView) :
    l.put slot v slot = v :=
  if_pos rfl

/-- Putting a slot changes no other slot. -/
theorem put_of_ne (l : Ledger) {slot other : Slot} (v : Option SlotView) (h : other ≠ slot) :
    l.put slot v other = l other :=
  if_neg h

/-- What is put is what is seen. -/
theorem view_put_self (l : Ledger) (slot : Slot) (v : SlotView) :
    (l.put slot (some v)).view slot = v := by
  rw [view, put_self, Option.getD_some]

/-- Putting a slot changes the view of no other slot. -/
theorem view_put_of_ne (l : Ledger) {slot other : Slot} (v : Option SlotView) (h : other ≠ slot) :
    (l.put slot v).view other = l.view other := by
  rw [view, put_of_ne l v h, view]

/-- A call on an interface changes nothing of another slot. -/
theorem view_note_of_ne (l : Ledger) {slot other : Slot} (i : Interface) (state : InterfaceState)
    (failure : Option EngineCode) (h : other ≠ slot) :
    (l.note slot i state failure).view other = l.view other := by
  cases failure with
  | none => rw [note, reach, view_put_of_ne l _ h]
  | some code =>
    by_cases hcode : code.isNegative = true
    · rw [note, if_pos hcode, spoil, view_put_of_ne l _ h]
    · rw [note, if_neg hcode]

/-- A call on an interface changes no state but that of this interface, and that only if it works. -/
theorem states_note (l : Ledger) (slot other : Slot) (i j : Interface) (state : InterfaceState)
    (failure : Option EngineCode) :
    ((l.note slot i state failure).view other).states j =
      if other = slot ∧ j = i ∧ failure = none then some state else (l.view other).states j := by
  by_cases hother : other = slot
  · subst hother
    cases failure with
    | none => simp [note, reach, view_put_self]
    | some code =>
      by_cases hcode : code.isNegative = true
      · simp [note, spoil, hcode, view_put_self]
      · simp [note, hcode]
  · rw [if_neg fun h => hother h.1, view_note_of_ne l i state failure hother]

/-- A call on an interface breaks the slot if it is refused, and mends nothing. -/
theorem broken_note (l : Ledger) (slot other : Slot) (i : Interface) (state : InterfaceState)
    (failure : Option EngineCode) :
    ((l.note slot i state failure).view other).broken =
      if other = slot ∧ failure.any EngineCode.isNegative = true then true
      else (l.view other).broken := by
  by_cases hother : other = slot
  · subst hother
    cases failure with
    | none => simp [note, reach, view_put_self]
    | some code =>
      by_cases hcode : code.isNegative = true
      · simp [note, spoil, hcode, view_put_self]
      · simp [note, hcode]
  · rw [if_neg fun h => hother h.1, view_note_of_ne l i state failure hother]

/-- A call on an interface is noted for this interface. -/
theorem after_of_touches (l : Ledger) {c : Call} {slot : Slot} {i : Interface}
    (h : c.request.Touches slot i) :
    ∃ state, (c.request.Links slot i → state = .linked) ∧
      l.after c = l.note slot i state c.failure := by
  obtain ⟨r, failure⟩ := c
  cases r with
  | configure =>
    obtain ⟨rfl, rfl⟩ := h
    exact ⟨.configured, False.elim, rfl⟩
  | bind =>
    obtain ⟨rfl, rfl⟩ := h
    exact ⟨.linked, fun _ => rfl, rfl⟩
  | connect =>
    obtain ⟨rfl, rfl⟩ := h
    exact ⟨.linked, fun _ => rfl, rfl⟩
  | _ => exact h.elim

/-- All that a call can do to a ledger. -/
theorem after_cases (l : Ledger) (c : Call) :
    (∃ slot i state, c.request.Touches slot i ∧ l.after c = l.note slot i state c.failure) ∨
      (∃ slot, c.Unlinks slot ∧ l.after c = l.put slot none) ∨
      (c.ClosesPeer ∧ l.after c = empty) ∨
      l.after c = l := by
  obtain ⟨r, failure⟩ := c
  cases r with
  | configure _ slot i _ => exact .inl ⟨slot, i, .configured, ⟨rfl, rfl⟩, rfl⟩
  | bind _ slot i _ => exact .inl ⟨slot, i, .linked, ⟨rfl, rfl⟩, rfl⟩
  | connect _ slot i _ => exact .inl ⟨slot, i, .linked, ⟨rfl, rfl⟩, rfl⟩
  | unlink h slot =>
    cases failure with
    | none => exact .inr (.inl ⟨slot, ⟨⟨h, rfl⟩, rfl⟩, rfl⟩)
    | some code => exact .inr (.inr (.inr rfl))
  | peerClose h =>
    cases failure with
    | none => exact .inr (.inr (.inl ⟨⟨⟨h, rfl⟩, rfl⟩, rfl⟩))
    | some code => exact .inr (.inr (.inr rfl))
  | _ => exact .inr (.inr (.inr rfl))

/-- A request that is admitted finds its interface usable. -/
theorem Admits.usable {l : Ledger} {r : Request} {slot : Slot} {i : Interface} (h : l.Admits r)
    (htouches : r.Touches slot i) : l.Usable slot i := by
  cases r with
  | configure | bind | connect =>
    obtain ⟨rfl, rfl⟩ := htouches
    exact h
  | _ => exact htouches.elim

end Ledger

/-! ## The ledger of a slot table -/

/-- What a record says of its slot. -/
def SlotRecord.view (r : SlotRecord) : SlotView := ⟨r.broken, r.interfaces.get?⟩

/-- A record is known by its view. -/
theorem SlotRecord.view_injective {r r' : SlotRecord} (h : r.view = r'.view) : r = r' := by
  have hbroken : r.broken = r'.broken := congrArg SlotView.broken h
  have hinterfaces : r.interfaces = r'.interfaces :=
    PerInterface.ext_get? fun i => congrFun (congrArg SlotView.states h) i
  cases r
  cases r'
  rw [SlotRecord.mk.injEq]
  exact ⟨hbroken, hinterfaces⟩

/-- Reaching a state changes one interface of the view. -/
theorem SlotRecord.view_reach (r : SlotRecord) (i : Interface) (state : InterfaceState) :
    (r.reach i state).view =
      { r.view with states := fun j => if j = i then some state else r.view.states j } := by
  ext j
  · rfl
  · simp [view, reach]

theorem SlotRecord.view_spoil (r : SlotRecord) : r.spoil.view = { r.view with broken := true } := rfl

namespace SlotTable

/-- What a slot table says of its slots. -/
def ledger (t : SlotTable) : Ledger := fun slot => (t.get? slot).map SlotRecord.view

/-- Nothing in a table is left out of its ledger. -/
theorem ledger_injective {t u : SlotTable} (h : t.ledger = u.ledger) : t = u := by
  refine Table.ext_get? fun slot => ?_
  have hslot : (t.get? slot).map SlotRecord.view = (u.get? slot).map SlotRecord.view :=
    congrFun h slot
  exact Option.map_inj_right (fun _ _ => SlotRecord.view_injective) |>.mp hslot

/-- The ledger follows a record that is put in. -/
theorem ledger_insert (t : SlotTable) (slot : Slot) (r : SlotRecord) :
    ledger (t.insert slot r) = t.ledger.put slot (some r.view) := by
  funext other
  rw [ledger, Ledger.put, Table.get?_insert]
  by_cases hother : other = slot
  · rw [if_pos hother, if_pos hother, Option.map_some]
  · rw [if_neg hother, if_neg hother, ledger]

/-- The ledger follows a slot that is erased. -/
theorem ledger_erase (t : SlotTable) (slot : Slot) :
    ledger (t.erase slot) = t.ledger.put slot none := by
  funext other
  rw [ledger, Ledger.put, Table.get?_erase]
  by_cases hother : other = slot
  · rw [if_pos hother, if_pos hother, Option.map_none]
  · rw [if_neg hother, if_neg hother, ledger]

/-- A slot that is not in the table is seen as the empty record. -/
theorem view_ledger (t : SlotTable) (slot : Slot) : t.ledger.view slot = (t.record slot).view := by
  rw [Ledger.view, ledger, record]
  cases t.get? slot with
  | none =>
    ext i
    · rfl
    · cases i <;> rfl
  | some r => rfl

/-- Whether a slot is broken, read from the ledger. -/
theorem isBroken_eq (t : SlotTable) (slot : Slot) :
    t.isBroken slot = (t.ledger.view slot).broken := by
  rw [view_ledger]
  rfl

/-- The state of an interface, read from the ledger. -/
theorem state?_eq (t : SlotTable) (slot : Slot) (i : Interface) :
    t.state? slot i = (t.ledger.view slot).states i := by
  rw [state?, Ledger.view, ledger]
  cases t.get? slot <;> rfl

/-- The ledger follows an interface that reaches a state. -/
theorem ledger_reach (t : SlotTable) (slot : Slot) (i : Interface) (state : InterfaceState) :
    (t.reach slot i state).ledger = t.ledger.reach slot i state := by
  rw [reach, ledger_insert, SlotRecord.view_reach, Ledger.reach, view_ledger]

/-- The ledger follows a slot that breaks. -/
theorem ledger_spoil (t : SlotTable) (slot : Slot) :
    (t.spoil slot).ledger = t.ledger.spoil slot := by
  rw [spoil, ledger_insert, SlotRecord.view_spoil, Ledger.spoil, view_ledger]

/-- The ledger has the slots of the table. -/
theorem contains_iff (t : SlotTable) (slot : Slot) :
    t.contains slot = true ↔ t.ledger slot ≠ none := by
  rw [Table.contains, ledger, Option.isSome_iff_ne_none, ne_eq, ne_eq, Option.map_eq_none_iff]

/-- The check on a table lets pass what the ledger of the table admits. -/
theorem checkUsable_eq_ok_iff (t : SlotTable) (slot : Slot) (i : Interface) :
    t.checkUsable slot i = .ok () ↔ t.ledger.Usable slot i := by
  have hview : t.ledger.view slot = (t.record slot).view := view_ledger t slot
  simp only [checkUsable, ite_error_eq_ok_iff, Bool.not_eq_true, List.any_eq_false,
    Bool.not_eq_false', and_true, PerInterface.mem_keys]
  constructor
  · rintro ⟨hbroken, hlinked, hothers⟩
    refine ⟨by rw [hview]; exact hbroken, by rw [hview]; exact hlinked, fun j hj => ?_⟩
    rw [hview] at hj
    exact hothers j (Option.isSome_iff_ne_none.mpr hj)
  · rintro ⟨hbroken, hlinked, hothers⟩
    rw [hview] at hbroken hlinked hothers
    exact ⟨hbroken, hlinked, fun j hj => hothers j (Option.isSome_iff_ne_none.mp hj)⟩

end SlotTable
end AudioLink
