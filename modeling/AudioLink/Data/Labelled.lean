/-
Finite types whose values have labels in structured data.
-/
set_option autoImplicit false

namespace AudioLink

/-- A finite type in which each value has a label of its own. -/
class Labelled (α : Type) where
  all : List α
  label : α → String
  /-- A value is found again by its label. -/
  find?_label : ∀ a, all.find? (fun b => label b = label a) = some a

namespace Labelled

variable {α : Type} [Labelled α]

/-- The value with the given label. -/
def ofLabel? (s : String) : Option α := all.find? fun a => label a = s

@[simp] theorem ofLabel?_label (a : α) : ofLabel? (label a) = some a := find?_label a

end Labelled
end AudioLink
