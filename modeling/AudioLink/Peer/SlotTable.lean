import AudioLink.Error
import AudioLink.Table

/-
What a peer has done with each of its slots.

The table follows the calls that were made to the engine, so that misuse is found before it gets
there: a slot on which a call failed is broken until it is unlinked, an interface is linked at most
once, and the consolidated interface shares a slot with no other.
-/
set_option autoImplicit false

namespace AudioLink

/-- What has been done with an interface. -/
inductive InterfaceState where
  /-- Its options are set. -/
  | configured
  /-- It is bound or connected. -/
  | linked
  deriving DecidableEq, Repr

namespace InterfaceState

/-- The displayed name. -/
def name : InterfaceState → String
  | configured => "configured"
  | linked => "linked"

end InterfaceState

/-- What has been done with a slot. -/
structure SlotRecord where
  /-- Whether a call on the slot has failed. -/
  broken : Bool := false
  /-- What has been done with its interfaces. -/
  interfaces : PerInterface InterfaceState := .empty
  deriving DecidableEq, Repr

namespace SlotRecord

/-- The record of a slot that nothing has been done with. -/
def fresh : SlotRecord := {}

/-- The record after a call on an interface worked. -/
def reach (r : SlotRecord) (interface : Interface) (state : InterfaceState) : SlotRecord :=
  { r with interfaces := r.interfaces.set interface state }

/-- The record after a call failed. -/
def spoil (r : SlotRecord) : SlotRecord := { r with broken := true }

end SlotRecord

/-- What a peer has done with each of its slots. -/
abbrev SlotTable := Table Slot SlotRecord

namespace SlotTable

/-- The record of a slot, which is a fresh one if the slot is not in the table. -/
def record (t : SlotTable) (slot : Slot) : SlotRecord := (t.get? slot).getD .fresh

/-- Whether an interface of a slot may be configured or linked, or why not. -/
def checkUsable (t : SlotTable) (slot : Slot) (interface : Interface) : Except Error Unit :=
  let r := t.record slot
  if r.broken then .error (.slotBroken slot)
  -- An interface that is in use is reported before one that is in the way.
  else if r.interfaces.get? interface = some .linked then .error (.interfaceLinked slot interface)
  else if r.interfaces.keys.any fun other => !interface.compatible other then
    .error (.interfaceConflict slot interface)
  else .ok ()

/-- The table after a call on an interface worked. -/
def reach (t : SlotTable) (slot : Slot) (interface : Interface) (state : InterfaceState) :
    SlotTable :=
  t.insert slot ((t.record slot).reach interface state)

/-- The table after a call on a slot failed. -/
def spoil (t : SlotTable) (slot : Slot) : SlotTable := t.insert slot (t.record slot).spoil

/-- What has been done with an interface of a slot. -/
def state? (t : SlotTable) (slot : Slot) (interface : Interface) : Option InterfaceState :=
  (t.get? slot).bind fun r => r.interfaces.get? interface

/-- Whether a call on a slot has failed since it was last unlinked. -/
def isBroken (t : SlotTable) (slot : Slot) : Bool := (t.record slot).broken

end SlotTable
end AudioLink
