import AudioLink.Text.Digits
import Mathlib.Data.List.TakeDrop

/-
Texts that are cut at a character.

A reader takes characters as long as they pass a test, so a text is cut behind its last character if
what follows starts with one that does not. Characters differ if a test tells them apart. A numeral
is told apart from other words by its first character.
-/
set_option autoImplicit false

namespace AudioLink.Text

theorem ne_of_test {p : Char → Bool} {c d : Char} (hc : p c = true) (hd : p d = false) : c ≠ d := by
  rintro rfl
  exact Bool.false_ne_true (hd.symm.trans hc)

section Cut

variable {p : Char → Bool} {l r : List Char} (hl : ∀ c ∈ l, p c = true)
  (hr : ∀ c ∈ r.head?, p c = false)
include hl hr

theorem takeWhile_append_of_stop : (l ++ r).takeWhile p = l := by
  rw [List.takeWhile_append_of_pos hl]
  cases r with
  | nil => simp
  | cons c r => rw [List.takeWhile_cons_of_neg (by simp [hr c rfl]), List.append_nil]

theorem dropWhile_append_of_stop : (l ++ r).dropWhile p = r := by
  rw [List.dropWhile_append_of_pos hl]
  cases r with
  | nil => rfl
  | cons c r => exact List.dropWhile_cons_of_neg (by simp [hr c rfl])

/-- A text is cut where its characters stop to have a property. -/
theorem span_append_of_stop : (l ++ r).span p = (l, r) := by
  rw [List.span_eq_takeWhile_dropWhile, takeWhile_append_of_stop hl hr,
    dropWhile_append_of_stop hl hr]

end Cut

end AudioLink.Text

namespace AudioLink.Digits

/-- Only the numeral of zero starts with a zero. -/
theorem head_decimal {n : Nat} (hn : n ≠ 0) : (decimal n).head? ≠ some '0' := by
  induction n using Nat.strongRecOn with
  | ind n ih =>
    rw [decimal, Nat.toDigits_eq_if (by decide)]
    by_cases hsmall : n < 10
    · rw [if_pos hsmall]
      have hdigit : ∀ m < 10, m ≠ 0 → Nat.digitChar m ≠ '0' := by decide
      simpa using hdigit n hsmall hn
    · rw [if_neg hsmall]
      have hhead := ih (n / 10) (by omega) (by omega)
      rw [List.head?_append]
      cases hd : (Nat.toDigits 10 (n / 10)).head? with
      | none => exact absurd (List.head?_eq_none_iff.mp hd) (decimal_ne_nil (n / 10))
      | some c =>
        rw [decimal, hd] at hhead
        exact hhead

/-- A numeral starts with a sign or with a digit. -/
theorem signed_eq_cons (n : Int) :
    ∃ c cs, signed n = c :: cs ∧ (c = '-' ∨ c.isDigit = true) ∧
      ∀ d ∈ cs, d.isDigit = true := by
  have hdigits : ∀ c ∈ decimal n.natAbs, c.isDigit = true :=
    fun c hc => isDigit_of_mem_decimal hc
  rw [signed]
  split
  · exact ⟨_, _, rfl, .inl rfl, hdigits⟩
  · obtain ⟨c, cs, hcs⟩ := List.exists_cons_of_ne_nil (decimal_ne_nil n.natAbs)
    rw [hcs] at hdigits ⊢
    refine ⟨c, cs, rfl, .inr (hdigits c (by simp)), ?_⟩
    intro d hd
    exact hdigits d (by simp [hd])

end AudioLink.Digits
