import AudioLink.Proofs.Table

/-
Tables that say the same of the same objects.

A session and its engines keep tables of the same objects, the session by its own names and each
engine by the handles that it has given. One table mirrors the others if every object has its place
there, with a value that agrees with it, and the numbers of entries are the same. Objects that come,
go or change on both sides keep this up.
-/
set_option autoImplicit false

namespace AudioLink

/-- The objects of a table are those of the tables of several engines: each has a place there, of
its own, with a value that agrees with it, and there is nothing else. -/
structure Mirrors {κ η α β : Type} [Ranked κ] [Ranked η] (agrees : α → β → Prop)
    (place : α → Nat × η) (t : Table κ α) (u : Nat → Table η β) : Prop where
  found : ∀ k a, t.get? k = some a →
    ∃ b, (u (place a).1).get? (place a).2 = some b ∧ agrees a b
  distinct : ∀ k k' a a', t.get? k = some a → t.get? k' = some a' → place a = place a' → k = k'
  size : ∀ n, (u n).size = t.count fun a => (place a).1 = n

namespace Mirrors

variable {κ η α β : Type} [Ranked κ] [Ranked η]
  {agrees agrees' : α → β → Prop} {place : α → Nat × η} {t : Table κ α} {u u' : Nat → Table η β}
  {k : κ} {a a' : α} {b : β} {n : Nat} {x : η}

theorem mono (h : Mirrors agrees place t u)
    (himp : ∀ k a b, t.get? k = some a → agrees a b → agrees' a b) : Mirrors agrees' place t u where
  found k a hk := by
    obtain ⟨b, hb, hagrees⟩ := h.found k a hk
    exact ⟨b, hb, himp k a b hk hagrees⟩
  distinct := h.distinct
  size := h.size

variable [DecidableEq κ] [DecidableEq η]

omit [DecidableEq η] in
/-- An object comes in, under a handle that is not in use. -/
theorem insert (h : Mirrors agrees place t u) (hk : t.get? k = none) (hplace : place a = (n, x))
    (hfree : (u n).get? x = none) (hself : u' n = (u n).insert x b)
    (hothers : ∀ m, m ≠ n → u' m = u m) (hb : agrees a b) :
    Mirrors agrees place (t.insert k a) u' := by
  -- A place that was taken had a value, but that of the new object had none.
  have hne (j : κ) (c : α) (hj : t.get? j = some c) : place c ≠ (n, x) := by
    intro hc
    obtain ⟨b, hb, -⟩ := h.found j c hj
    rw [hc] at hb
    exact absurd (hfree.symm.trans hb) nofun
  have hkeep (m : Nat) (y : η) (hmy : (m, y) ≠ (n, x)) : (u' m).get? y = (u m).get? y := by
    by_cases hm : m = n
    · have hy : y ≠ x := fun hy => hmy (Prod.ext hm hy)
      rw [hm, hself, Table.get?_insert_of_ne _ _ hy]
    · rw [hothers m hm]
  refine ⟨fun j c hj => ?_, fun j j' c c' hj hj' hc => ?_, fun m => ?_⟩
  · rcases Table.get?_insert_cases hj with ⟨-, rfl⟩ | ⟨-, hj⟩
    · rw [hplace, hself, Table.get?_insert_self]
      exact ⟨b, rfl, hb⟩
    · rw [hkeep _ _ (hne j c hj)]
      exact h.found j c hj
  · rcases Table.get?_insert_cases hj with ⟨hjk, rfl⟩ | ⟨-, hj⟩
    · rcases Table.get?_insert_cases hj' with ⟨hjk', -⟩ | ⟨-, hj'⟩
      · rw [hjk, hjk']
      · exact absurd (hc.symm.trans hplace) (hne j' c' hj')
    · rcases Table.get?_insert_cases hj' with ⟨-, rfl⟩ | ⟨-, hj'⟩
      · exact absurd (hc.trans hplace) (hne j c hj)
      · exact h.distinct j j' c c' hj hj' hc
  · rw [Table.count_insert_of_none hk, hplace, ← h.size]
    by_cases hm : m = n
    · rw [hm, hself, Table.size_eq_count, Table.count_insert_of_none hfree, if_pos rfl,
        if_pos (decide_eq_true rfl), ← Table.size_eq_count]
    · rw [hothers m hm, if_neg fun heq => hm (of_decide_eq_true heq).symm, Nat.add_zero]

/-- An object goes. -/
theorem erase (h : Mirrors agrees place t u) (hk : t.get? k = some a) (hplace : place a = (n, x))
    (hself : u' n = (u n).erase x) (hothers : ∀ m, m ≠ n → u' m = u m) :
    Mirrors agrees place (t.erase k) u' := by
  refine ⟨fun j c hj => ?_, fun j j' c c' hj hj' hc => ?_, fun m => ?_⟩
  · obtain ⟨hjk, hj⟩ := Table.get?_of_get?_erase hj
    have hne : place c ≠ (n, x) := fun hc => hjk (h.distinct j k c a hj hk (hc.trans hplace.symm))
    have hkeep : (u' (place c).1).get? (place c).2 = (u (place c).1).get? (place c).2 := by
      by_cases hm : (place c).1 = n
      · have hy : (place c).2 ≠ x := fun hy => hne (Prod.ext hm hy)
        rw [hm, hself, Table.get?_erase_of_ne _ hy]
      · rw [hothers _ hm]
    rw [hkeep]
    exact h.found j c hj
  · exact h.distinct j j' c c' (Table.get?_of_get?_erase hj).2 (Table.get?_of_get?_erase hj').2 hc
  · have hcount := Table.count_erase_of_some hk fun c => (place c).1 = m
    rw [← h.size, hplace] at hcount
    by_cases hm : m = n
    · obtain ⟨b, hb, -⟩ := h.found k a hk
      rw [hplace] at hb
      have hsize := Table.count_erase_of_some hb fun _ => true
      rw [if_pos rfl, ← Table.size_eq_count, ← Table.size_eq_count, ← hself] at hsize
      rw [hm, if_pos (decide_eq_true rfl), ← hsize] at hcount
      rw [hm]
      exact (Nat.add_right_cancel hcount).symm
    · rw [if_neg fun heq => hm (of_decide_eq_true heq).symm, Nat.add_zero] at hcount
      rw [hothers m hm, hcount]

/-- An object changes, and its value with it. -/
theorem replace (h : Mirrors agrees place t u) (hk : t.get? k = some a) (hplace : place a = (n, x))
    (hplace' : place a' = place a) (hself : u' n = (u n).insert x b)
    (hothers : ∀ m, m ≠ n → u' m = u m) (hb : agrees a' b) :
    Mirrors agrees place (t.insert k a') u' := by
  -- The object goes and comes back with its new value.
  have herase : Mirrors agrees place (t.erase k) fun m => if m = n then (u n).erase x else u m :=
    h.erase hk hplace (if_pos rfl) fun m hm => if_neg hm
  rw [← Table.insert_erase]
  refine herase.insert (Table.get?_erase_self t k) (hplace'.trans hplace) ?_ ?_ ?_ hb
  · rw [if_pos rfl, Table.get?_erase_self]
  · rw [if_pos rfl, Table.insert_erase, hself]
  · intro m hm
    rw [if_neg hm, hothers m hm]

end Mirrors

end AudioLink
