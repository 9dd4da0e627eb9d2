/-
Checks that are made one after the other.

A reader or an operation of this library is a chain of steps, each of which yields a value or stops
the chain with a fault. The chain succeeds exactly if every step does.
-/
set_option autoImplicit false

namespace AudioLink

instance instDecidableEqExcept {ε α : Type} [DecidableEq ε] [DecidableEq α] :
    DecidableEq (Except ε α)
  | .ok a, .ok b => decidable_of_iff (a = b) (by rw [Except.ok.injEq])
  | .error e, .error f => decidable_of_iff (e = f) (by rw [Except.error.injEq])
  | .ok _, .error _ => isFalse (by simp)
  | .error _, .ok _ => isFalse (by simp)

/-- Two steps succeed exactly if the first does and the second does with its value. -/
theorem bind_eq_ok_iff {ε α β : Type} {x : Except ε α} {f : α → Except ε β} {b : β} :
    x >>= f = .ok b ↔ ∃ a, x = .ok a ∧ f a = .ok b := by
  cases x <;> simp [bind, Except.bind]

/-- Behind a check, a step succeeds exactly if the check raises no fault and the step does. -/
theorem ite_error_eq_ok_iff {ε α : Type} {c : Prop} [Decidable c] {fault : ε} {x : Except ε α}
    {a : α} : (if c then .error fault else x) = .ok a ↔ ¬ c ∧ x = .ok a := by
  by_cases hc : c <;> simp [hc]

end AudioLink
