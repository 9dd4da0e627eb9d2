import AudioLink.Data.Labelled
import AudioLink.Data.Value

/-
How the types of the library stand in structured data.

A form of a type reads a value as one of the type and writes one as a value. Reading is lenient in
the ways that make old and partial files usable: names that a record does not have are passed over,
and a field that is not given takes its default. It is strict in all else: a number out of range, a
number with a fraction or a text for a number is refused.

The formats differ in two points only, and those are the fields of `Dialect`.
-/
set_option autoImplicit false

namespace AudioLink

/-- What a format leaves to the reading of values. -/
structure Dialect where
  /-- Whether a record given as a list may have more items than the record has fields. -/
  surplusItems : Bool
  /-- What may stand under the name of a choice that takes no value. -/
  isUnit : Value → Bool

namespace Dialect

/-- The reading of JSON: nothing may be left over, and a choice without a value has `null`. -/
def json : Dialect where
  surplusItems := false
  isUnit
    | .null => true
    | _ => false

/-- The reading of TOML, which has no `null`: an empty list or table stands for it. -/
def toml : Dialect where
  surplusItems := true
  isUnit
    | .list [] | .table [] => true
    | _ => false

end Dialect

/-- How a type stands in structured data. -/
class Form (α : Type) where
  /-- Reads a value; `none` if it is none of the type. -/
  read? : Dialect → Value → Option α
  /-- Writes a value. -/
  write : α → Value

namespace Form

/-! ## Single values -/

instance : Form Bool where
  read? _
    | .bool b => some b
    | _ => none
  write b := .bool b

instance : Form String where
  read? _
    | .text s => some s
    | _ => none
  write s := .text s

instance : Form UInt32 where
  read? _
    | .int n => if 0 ≤ n ∧ n < UInt32.size then some (UInt32.ofNat n.toNat) else none
    | _ => none
  write n := .int n.toNat

instance : Form UInt64 where
  read? _
    | .int n => if 0 ≤ n ∧ n < UInt64.size then some (UInt64.ofNat n.toNat) else none
    | _ => none
  write n := .int n.toNat

instance : Form Int32 where
  read? _
    | .int n =>
      if Int32.minValue.toInt ≤ n ∧ n ≤ Int32.maxValue.toInt then some (Int32.ofInt n) else none
    | _ => none
  write n := .int n.toInt

instance {α : Type} [Form α] : Form (Option α) where
  read? dialect
    | .null => some none
    | v => (read? dialect v).map some
  write
    | none => .null
    | some a => write a

/-! ## Choices -/

/-- The name and the payload, if any, that a value gives for a choice: a text is a name alone, and
a table of one entry is a name with a payload. -/
def choice? : Value → Option (String × Option Value)
  | .text s => some (s, none)
  | .table [(name, payload)] => some (name, some payload)
  | _ => none

/-- Whether a payload may stand under the name of a choice that takes none. -/
def isBare (dialect : Dialect) : Option Value → Bool
  | none => true
  | some v => dialect.isUnit v

/-- Reads a choice by its label. -/
def readLabelled? {α : Type} [Labelled α] (dialect : Dialect) (v : Value) : Option α := do
  let (name, payload) ← choice? v
  let a ← Labelled.ofLabel? name
  if isBare dialect payload then some a else none

instance {α : Type} [Labelled α] : Form α where
  read? := readLabelled?
  write a := .text (Labelled.label a)

/-! ## Records -/

/-- What a value gives for the fields of a record with the given names, in the order of the record:
a table gives them by name and a list by position. A moment counts as a table without any of
them. -/
def given? (dialect : Dialect) (names : List String) : Value → Option (String → Option Value)
  | .table fields => some fun name => Value.lookup name fields
  | .moment => some fun _ => none
  | .list items =>
    if dialect.surplusItems = false ∧ names.length < items.length then none
    else some fun name => Value.lookup name (names.zip items)
  | _ => none

/-- Reads one field of a record; a field that is not given has its default. -/
def field? {α : Type} [Form α] (dialect : Dialect) (given : String → Option Value) (name : String)
    (default : α) : Option α :=
  match given name with
  | some v => read? dialect v
  | none => some default

/-- A field as it is written. -/
def entry {α : Type} [Form α] (name : String) (a : α) : String × Value := (name, write a)

/-- A field that is left out if it has no value. -/
def entryIfSome {α : Type} [Form α] (name : String) : Option α → List (String × Value)
  | some a => [entry name a]
  | none => []

/-! ## What was written is read -/

@[simp] theorem read?_write_bool (d : Dialect) (b : Bool) : read? d (write b) = some b := rfl

@[simp] theorem read?_write_string (d : Dialect) (s : String) : read? d (write s) = some s := rfl

@[simp] theorem read?_write_uint32 (d : Dialect) (n : UInt32) : read? d (write n) = some n := by
  have h := n.toNat_lt
  simp [read?, write]
  omega

@[simp] theorem read?_write_uint64 (d : Dialect) (n : UInt64) : read? d (write n) = some n := by
  have h := n.toNat_lt
  simp [read?, write]
  omega

@[simp] theorem read?_write_int32 (d : Dialect) (n : Int32) : read? d (write n) = some n := by
  have h : n.toInt ≤ Int32.maxValue.toInt := n.toInt_le
  have h' : Int32.minValue.toInt ≤ n.toInt := n.minValue_le_toInt
  simp only [read?, write, h, h', and_self, if_true, Int32.ofInt_toInt]

@[simp] theorem read?_write_labelled {α : Type} [Labelled α] (d : Dialect) (a : α) :
    read? d (write a) = some a := by
  simp [read?, write, readLabelled?, choice?, isBare]

end Form
end AudioLink
