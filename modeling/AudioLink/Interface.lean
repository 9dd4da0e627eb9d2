import AudioLink.Endpoint.Protocol
import AudioLink.Table

/-
Slots and the interfaces of a slot.

A peer owns any number of slots, numbered from zero. A slot has one interface of each kind, and the
consolidated interface, which carries signalling and media together, excludes the three others.
`PerInterface` holds at most one value for each kind; being a record of four fields it is decided
field by field, and two of them are equal as soon as they agree at every kind.
-/
set_option autoImplicit false

namespace AudioLink

/-! ## Slots -/

/-- Index of a slot of a peer. -/
structure Slot where
  /-- The number of the slot, counted from zero. -/
  index : UInt32
  deriving DecidableEq, Repr

/-- Slots are ordered by their numbers. -/
instance : Ranked Slot where
  rank slot := slot.index.toNat
  rank_inj {a b} h := by
    cases a; cases b
    simpa using UInt32.toNat_inj.1 h

namespace Slot

/-- Slot zero, enough for a setup of one sender and one receiver. -/
def first : Slot := ⟨0⟩

/-- The displayed form of a slot. -/
def text (slot : Slot) : String := "#" ++ toString slot.index.toNat

end Slot

/-! ## Interfaces -/

/-- Role of an interface within a slot. -/
inductive Interface where
  /-- Signalling and all media streams; excludes the other kinds. -/
  | consolidated
  /-- Audio source packets. -/
  | audioSource
  /-- Repair packets of a forward error correction scheme. -/
  | audioRepair
  /-- Control messages. -/
  | audioControl
  deriving DecidableEq, Repr

namespace Interface

/-- Every kind of interface, in the order in which they are listed to a user. -/
def all : List Interface := [consolidated, audioSource, audioRepair, audioControl]

/-- Every kind is in the list of all of them. -/
theorem mem_all (i : Interface) : i ∈ all := by cases i <;> decide

/-- The displayed name. -/
def name : Interface → String
  | consolidated => "consolidated"
  | audioSource => "audio-source"
  | audioRepair => "audio-repair"
  | audioControl => "audio-control"

/-- Whether endpoints of `protocol` may be used with this interface. -/
def supports : Interface → Protocol → Bool
  | consolidated, .rtsp => true
  | audioSource, .rtp => true
  | audioSource, .rtpRs8mSource => true
  | audioSource, .rtpLdpcSource => true
  | audioRepair, .rs8mRepair => true
  | audioRepair, .ldpcRepair => true
  | audioControl, .rtcp => true
  | _, _ => false

/-- Whether two interfaces may be used on one slot: both consolidated, or neither. -/
def compatible (a b : Interface) : Bool :=
  decide (a = consolidated) == decide (b = consolidated)

end Interface

/-! ## One value for each kind of interface -/

/-- At most one value for each kind of interface. -/
structure PerInterface (α : Type) where
  /-- The value of the consolidated interface. -/
  consolidated : Option α := none
  /-- The value of the source interface. -/
  audioSource : Option α := none
  /-- The value of the repair interface. -/
  audioRepair : Option α := none
  /-- The value of the control interface. -/
  audioControl : Option α := none
  deriving DecidableEq, Repr

namespace PerInterface

variable {α : Type}

/-- No value for any kind. -/
def empty : PerInterface α := {}

/-- The value of one kind. -/
def get? (m : PerInterface α) : Interface → Option α
  | .consolidated => m.consolidated
  | .audioSource => m.audioSource
  | .audioRepair => m.audioRepair
  | .audioControl => m.audioControl

/-- Puts a value in the place of whatever the kind had. -/
def set (m : PerInterface α) (i : Interface) (a : α) : PerInterface α :=
  match i with
  | .consolidated => { m with consolidated := some a }
  | .audioSource => { m with audioSource := some a }
  | .audioRepair => { m with audioRepair := some a }
  | .audioControl => { m with audioControl := some a }

/-- The kinds that have a value, in the order of `Interface.all`. -/
def keys (m : PerInterface α) : List Interface := Interface.all.filter fun i => (m.get? i).isSome

/-- The kinds that have a value with their values, in the order of `Interface.all`. -/
def toList (m : PerInterface α) : List (Interface × α) :=
  Interface.all.filterMap fun i => (m.get? i).map (i, ·)

@[simp] theorem get?_empty (i : Interface) : (empty : PerInterface α).get? i = none := by
  cases i <;> rfl

/-- Setting one kind changes that kind only. -/
@[simp] theorem get?_set (m : PerInterface α) (i j : Interface) (a : α) :
    (m.set i a).get? j = if j = i then some a else m.get? j := by
  cases i <;> cases j <;> simp [set, get?]

/-- Two assignments that agree at every kind are equal. -/
theorem ext_get? {m n : PerInterface α} (h : ∀ i, m.get? i = n.get? i) : m = n := by
  have hc := h .consolidated
  have hs := h .audioSource
  have hr := h .audioRepair
  have ho := h .audioControl
  cases m
  cases n
  simp_all [get?]

/-- A kind is listed exactly if it has a value. -/
theorem mem_keys {m : PerInterface α} {i : Interface} : i ∈ m.keys ↔ (m.get? i).isSome := by
  simp [keys, Interface.mem_all]

end PerInterface
end AudioLink
