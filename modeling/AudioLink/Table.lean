/-
Finite tables, in the order of their keys.

A key type is ranked by natural numbers, one rank for each key. A table lists its entries by rising
rank, so it has at most one entry for a key, and two tables that answer every look-up alike are
equal. Everything else about a table is said through `get?`.
-/
set_option autoImplicit false

namespace AudioLink

/-- Keys that are told apart and ordered by a number. -/
class Ranked (κ : Type) where
  /-- The number of a key. -/
  rank : κ → Nat
  /-- Different keys have different numbers. -/
  rank_inj : ∀ {a b : κ}, rank a = rank b → a = b

instance : Ranked Nat := ⟨id, id⟩

instance : Ranked Int32 where
  rank n := n.toUInt32.toNat
  rank_inj {a b} h := by
    cases a; cases b
    exact congrArg Int32.ofUInt32 (UInt32.toNat_inj.1 h)

export Ranked (rank rank_inj)

/-- A finite assignment of values to keys. -/
structure Table (κ α : Type) [Ranked κ] where
  /-- The entries, by rising key. -/
  entries : List (κ × α)
  /-- Each entry has a greater key than the ones before it. -/
  sorted : entries.Pairwise fun x y => rank x.1 < rank y.1

namespace Table

variable {κ α : Type} [Ranked κ]

/-! ## Operations -/

/-- The table without entries. -/
def empty : Table κ α := ⟨[], List.Pairwise.nil⟩

instance : Inhabited (Table κ α) := ⟨empty⟩

/-- The value of a key. -/
def get? (t : Table κ α) (k : κ) : Option α :=
  (t.entries.find? fun x => rank x.1 = rank k).map (·.2)

/-- Whether a key has a value. -/
def contains (t : Table κ α) (k : κ) : Bool := (t.get? k).isSome

/-- Gives a key a value, in place of the one it had. -/
def insert (t : Table κ α) (k : κ) (a : α) : Table κ α where
  entries := t.entries.filter (fun x => rank x.1 < rank k)
    ++ (k, a) :: t.entries.filter (fun x => rank k < rank x.1)
  sorted := by
    refine List.pairwise_append.2 ⟨t.sorted.filter _, ?_, ?_⟩
    · refine List.pairwise_cons.2 ⟨fun y hy => ?_, t.sorted.filter _⟩
      exact of_decide_eq_true (List.mem_filter.1 hy).2
    · intro x hx y hy
      have hxk : rank x.1 < rank k := of_decide_eq_true (List.mem_filter.1 hx).2
      rcases List.mem_cons.1 hy with rfl | hy
      · exact hxk
      · have hky : rank k < rank y.1 := of_decide_eq_true (List.mem_filter.1 hy).2
        exact Nat.lt_trans hxk hky

/-- Takes a key out. -/
def erase (t : Table κ α) (k : κ) : Table κ α :=
  ⟨t.entries.filter fun x => rank x.1 ≠ rank k, t.sorted.filter _⟩

/-- The keys, rising. -/
def keys (t : Table κ α) : List κ := t.entries.map (·.1)

/-- The values, by rising key. -/
def values (t : Table κ α) : List α := t.entries.map (·.2)

/-- Number of entries. -/
def size (t : Table κ α) : Nat := t.entries.length

/-- Changes the value of a key that has one. -/
def modify (t : Table κ α) (k : κ) (f : α → α) : Table κ α :=
  match t.get? k with
  | some a => t.insert k (f a)
  | none => t

/-! ## Looking up -/

private theorem find?_rank_filter {l : List (κ × α)} {p : κ × α → Bool} {k : κ}
    (h : ∀ x ∈ l, rank x.1 = rank k → p x = true) :
    (l.filter p).find? (fun x => rank x.1 = rank k) = l.find? fun x => rank x.1 = rank k := by
  rw [List.find?_filter]
  induction l with
  | nil => rfl
  | cons x l ih =>
    have hl := ih fun y hy => h y (List.mem_cons_of_mem x hy)
    by_cases hx : rank x.1 = rank k
    · simp [hx, h x List.mem_cons_self hx]
    · simpa [hx] using hl

private theorem find?_rank_eq_none {l : List (κ × α)} {k : κ}
    (h : ∀ x ∈ l, rank x.1 ≠ rank k) : l.find? (fun x => rank x.1 = rank k) = none :=
  List.find?_eq_none.2 fun x hx => by simpa using h x hx

@[simp] theorem get?_empty (k : κ) : (empty : Table κ α).get? k = none := rfl

/-- Inserting gives the key its value. -/
@[simp] theorem get?_insert_self (t : Table κ α) (k : κ) (a : α) :
    (t.insert k a).get? k = some a := by
  unfold get? insert
  rw [List.find?_append, find?_rank_eq_none]
  · simp
  · intro x hx
    exact Nat.ne_of_lt (of_decide_eq_true (List.mem_filter.1 hx).2)

/-- Inserting leaves every other key as it was. -/
theorem get?_insert_of_ne (t : Table κ α) {k j : κ} (a : α) (h : j ≠ k) :
    (t.insert k a).get? j = t.get? j := by
  have hr : rank j ≠ rank k := fun hr => h (rank_inj hr)
  unfold get? insert
  rw [List.find?_append]
  rcases Nat.lt_or_gt_of_ne hr with hlt | hgt
  · rw [find?_rank_filter, find?_rank_eq_none (l := (k, a) :: _)]
    · simp
    · intro x hx
      rcases List.mem_cons.1 hx with rfl | hx
      · exact Ne.symm hr
      · have : rank k < rank x.1 := of_decide_eq_true (List.mem_filter.1 hx).2
        omega
    · intro x _ hx
      simpa [hx] using hlt
  · rw [find?_rank_eq_none]
    · rw [Option.none_or, List.find?_cons]
      have : (decide (rank k = rank j)) = false := by simpa using Ne.symm hr
      simp only [this]
      rw [find?_rank_filter]
      intro x _ hx
      simpa [hx] using hgt
    · intro x hx
      have : rank x.1 < rank k := of_decide_eq_true (List.mem_filter.1 hx).2
      omega

/-- What an insertion does to every look-up. -/
theorem get?_insert [DecidableEq κ] (t : Table κ α) (k j : κ) (a : α) :
    (t.insert k a).get? j = if j = k then some a else t.get? j := by
  by_cases h : j = k
  · subst h; simp
  · simp [h, get?_insert_of_ne t a h]

/-- An erased key has no value. -/
@[simp] theorem get?_erase_self (t : Table κ α) (k : κ) : (t.erase k).get? k = none := by
  unfold get? erase
  rw [find?_rank_eq_none]
  · rfl
  · intro x hx
    simpa using (List.mem_filter.1 hx).2

/-- Erasing leaves every other key as it was. -/
theorem get?_erase_of_ne (t : Table κ α) {k j : κ} (h : j ≠ k) :
    (t.erase k).get? j = t.get? j := by
  have hr : rank j ≠ rank k := fun hr => h (rank_inj hr)
  unfold get? erase
  rw [find?_rank_filter]
  intro x _ hx
  simpa [hx] using hr

/-- What an erasure does to every look-up. -/
theorem get?_erase [DecidableEq κ] (t : Table κ α) (k j : κ) :
    (t.erase k).get? j = if j = k then none else t.get? j := by
  by_cases h : j = k
  · subst h; simp
  · simp [h, get?_erase_of_ne t h]

/-- An entry is listed exactly if it is found. -/
theorem mem_entries {t : Table κ α} {k : κ} {a : α} :
    (k, a) ∈ t.entries ↔ t.get? k = some a := by
  obtain ⟨l, hl⟩ := t
  unfold get?
  induction l with
  | nil => simp
  | cons x l ih =>
    obtain ⟨hx, hl⟩ := List.pairwise_cons.1 hl
    have ih := ih hl
    by_cases h : rank x.1 = rank k
    · have hk : x.1 = k := rank_inj h
      have hnot : ∀ b, (k, b) ∉ l := fun b hb => by
        have := hx (k, b) hb
        simp [h] at this
      obtain ⟨j, b⟩ := x
      simp only at hk h
      subst hk
      simp [hnot a, eq_comm]
    · have hne : x ≠ (k, a) := by rintro rfl; exact h rfl
      simp only at ih
      simp [h, Ne.symm hne, ih]

private theorem entries_ext {l m : List (κ × α)}
    (hl : l.Pairwise fun x y => rank x.1 < rank y.1)
    (hm : m.Pairwise fun x y => rank x.1 < rank y.1)
    (h : ∀ x, x ∈ l ↔ x ∈ m) : l = m := by
  induction l generalizing m with
  | nil =>
    cases m with
    | nil => rfl
    | cons y m => exact absurd ((h y).2 List.mem_cons_self) (by simp)
  | cons x l ih =>
    cases m with
    | nil => exact absurd ((h x).1 List.mem_cons_self) (by simp)
    | cons y m =>
      obtain ⟨hx, hl'⟩ := List.pairwise_cons.1 hl
      obtain ⟨hy, hm'⟩ := List.pairwise_cons.1 hm
      -- Each of the two first entries is in the other list, and the smaller one can only be its
      -- first.
      have hxy : x = y := by
        rcases List.mem_cons.1 ((h x).1 List.mem_cons_self) with hxy | hxm
        · exact hxy
        · rcases List.mem_cons.1 ((h y).2 List.mem_cons_self) with hyx | hyl
          · exact hyx.symm
          · exact absurd (hx y hyl) (Nat.lt_asymm (hy x hxm))
      subst hxy
      congr 1
      refine ih hl' hm' fun z => ⟨fun hz => ?_, fun hz => ?_⟩
      · rcases List.mem_cons.1 ((h z).1 (List.mem_cons_of_mem x hz)) with rfl | hzm
        · exact absurd (hx z hz) (Nat.lt_irrefl _)
        · exact hzm
      · rcases List.mem_cons.1 ((h z).2 (List.mem_cons_of_mem x hz)) with rfl | hzl
        · exact absurd (hy z hz) (Nat.lt_irrefl _)
        · exact hzl

/-- Two tables that answer every look-up alike are equal. -/
theorem ext_get? {t u : Table κ α} (h : ∀ k, t.get? k = u.get? k) : t = u := by
  have : t.entries = u.entries := by
    refine entries_ext t.sorted u.sorted fun ⟨k, a⟩ => ?_
    rw [mem_entries, mem_entries, h k]
  cases t
  cases u
  simp_all

end Table
end AudioLink
