import AudioLink.Table

/-
Counting the entries of a table.

What a table holds is said through `get?`, so its entries are counted in terms of `get?` as well: an
entry that comes in, goes out or changes its value changes a count by what is counted of it.
-/
set_option autoImplicit false

namespace AudioLink.Table

variable {κ α β γ : Type} [Ranked κ]

/-- Number of entries whose value has a property. -/
def count (t : Table κ α) (p : α → Bool) : Nat := t.entries.countP fun x => p x.2

theorem size_eq_count (t : Table κ α) : t.size = t.count fun _ => true := by
  rw [size, count, List.countP_true]

variable {t : Table κ α} {k : κ} {a b : α}

/-! ## Looking up what has come and gone -/

section LookUp

variable [DecidableEq κ] {j : κ}

/-- What is found after an entry has come in is this entry, or was there before. -/
theorem get?_insert_cases (h : (t.insert k a).get? j = some b) :
    j = k ∧ a = b ∨ j ≠ k ∧ t.get? j = some b := by
  rw [get?_insert] at h
  by_cases hj : j = k
  · rw [if_pos hj] at h
    exact .inl ⟨hj, Option.some.inj h⟩
  · rw [if_neg hj] at h
    exact .inr ⟨hj, h⟩

omit [DecidableEq κ] in
/-- What is found after an entry has gone out was there before. -/
theorem get?_of_get?_erase (h : (t.erase k).get? j = some b) : j ≠ k ∧ t.get? j = some b := by
  have hj : j ≠ k := by
    rintro rfl
    exact absurd ((get?_erase_self t j).symm.trans h) nofun
  exact ⟨hj, (get?_erase_of_ne t hj).symm.trans h⟩

/-- A key does not lose its value when an entry comes in. -/
theorem get?_insert_ne_none (h : t.get? j ≠ none) (k : κ) (a : α) :
    (t.insert k a).get? j ≠ none := by
  rw [get?_insert]
  split
  · nofun
  · exact h

end LookUp

/-! ## Entries that come and go -/

theorem count_insert_of_none (h : t.get? k = none) (a : α) (p : α → Bool) :
    (t.insert k a).count p = t.count p + if p a = true then 1 else 0 := by
  have hne : ∀ x ∈ t.entries, rank x.1 ≠ rank k := by
    intro x hx hrank
    have hmem : (k, x.2) ∈ t.entries := by
      rw [← rank_inj hrank]
      exact hx
    exact absurd (h.symm.trans (mem_entries.mp hmem)) nofun
  have hafter : t.entries.filter (fun x => rank k < rank x.1) =
      t.entries.filter fun x => !decide (rank x.1 < rank k) := by
    refine List.filter_congr fun x hx => ?_
    have hx := hne x hx
    rw [← decide_not, decide_eq_decide]
    omega
  have hentries : (t.insert k a).entries = t.entries.filter (fun x => rank x.1 < rank k) ++
      (k, a) :: t.entries.filter fun x => !decide (rank x.1 < rank k) := by
    rw [← hafter]
    rfl
  rw [count, count, hentries, List.countP_append, List.countP_cons,
    List.countP_eq_countP_filter_add t.entries _ fun x => decide (rank x.1 < rank k)]
  dsimp only
  omega

theorem count_pos_of_get? {p : α → Bool} (h : t.get? k = some a) (hp : p a = true) :
    0 < t.count p :=
  List.countP_pos_iff.mpr ⟨(k, a), mem_entries.mpr h, hp⟩

/-- There is nothing in a table without entries. -/
theorem get?_of_size_eq_zero (h : t.size = 0) (k : κ) : t.get? k = none := by
  refine Option.eq_none_iff_forall_ne_some.mpr fun a ha => ?_
  have hpos : 0 < t.count fun _ => true := count_pos_of_get? ha rfl
  rw [← size_eq_count, h] at hpos
  exact Nat.lt_irrefl 0 hpos

theorem count_eq_zero {p : α → Bool} (h : ∀ k a, t.get? k = some a → p a = false) :
    t.count p = 0 := by
  refine List.countP_eq_zero.mpr fun x hx => ?_
  rw [h x.1 x.2 (mem_entries.mp hx)]
  exact Bool.false_ne_true

section Entries

variable [DecidableEq κ]

/-- Giving a key the value that it has changes nothing. -/
theorem insert_of_get? (h : t.get? k = some a) : t.insert k a = t := by
  refine ext_get? fun j => ?_
  rw [get?_insert]
  by_cases hj : j = k
  · rw [if_pos hj, hj, h]
  · rw [if_neg hj]

/-- The value that a key had does not matter. -/
theorem insert_erase (t : Table κ α) (k : κ) (a : α) : (t.erase k).insert k a = t.insert k a := by
  refine ext_get? fun j => ?_
  rw [get?_insert, get?_insert, get?_erase]
  by_cases hj : j = k
  · rw [if_pos hj, if_pos hj]
  · rw [if_neg hj, if_neg hj, if_neg hj]

/-- Of two values that are given to a key, the second one stays. -/
theorem insert_insert (t : Table κ α) (k : κ) (a b : α) : (t.insert k a).insert k b = t.insert k b := by
  refine ext_get? fun j => ?_
  rw [get?_insert, get?_insert, get?_insert]
  by_cases hj : j = k
  · rw [if_pos hj, if_pos hj]
  · rw [if_neg hj, if_neg hj, if_neg hj]

/-- An entry that goes out is not counted any more. -/
theorem count_erase_of_some (h : t.get? k = some b) (p : α → Bool) :
    ((t.erase k).count p + if p b = true then 1 else 0) = t.count p := by
  rw [← count_insert_of_none (get?_erase_self t k) b p, insert_erase, insert_of_get? h]

/-- Taking out a key that has no value changes nothing. -/
theorem erase_of_get? (h : t.get? k = none) : t.erase k = t := by
  refine ext_get? fun j => ?_
  rw [get?_erase]
  by_cases hj : j = k
  · rw [if_pos hj, hj, h]
  · rw [if_neg hj]

/-- Values that only one key can have are there once or not at all. -/
theorem count_eq_of_unique {p : α → Bool}
    (hunique : ∀ j a, t.get? j = some a → p a = true → j = k) :
    t.count p = ((t.get? k).any p).toNat := by
  have herase (j : κ) (a : α) (hj : (t.erase k).get? j = some a) : p a = false := by
    obtain ⟨hne, hj⟩ := get?_of_get?_erase hj
    exact Bool.eq_false_iff.mpr fun hp => hne (hunique j a hj hp)
  cases hk : t.get? k with
  | none =>
    rw [← erase_of_get? hk, count_eq_zero herase]
    rfl
  | some a =>
    rw [← count_erase_of_some hk, count_eq_zero herase, Option.any_some]
    cases p a with
    | true => rfl
    | false => rfl

/-- An entry whose value changes is counted by its new value. -/
theorem count_insert_of_some (h : t.get? k = some b) (a : α) (p : α → Bool) :
    ((t.insert k a).count p + if p b = true then 1 else 0) =
      t.count p + if p a = true then 1 else 0 := by
  rw [← insert_erase, count_insert_of_none (get?_erase_self t k) a p, ← count_erase_of_some h p]
  omega

end Entries

/-! ## Tables made of other tables -/

/-- The table in which each value is replaced by its image. -/
def image (f : α → β) (t : Table κ α) : Table κ β where
  entries := t.entries.map fun x => (x.1, f x.2)
  sorted := List.pairwise_map.mpr t.sorted

/-- The table in which each value that has an image is replaced by it, and the others are left out.
-/
def filterMap (f : α → Option β) (t : Table κ α) : Table κ β where
  entries := t.entries.filterMap fun x => (f x.2).map (x.1, ·)
  sorted := by
    refine t.sorted.filterMap _ fun x y hxy x' hx' y' hy' => ?_
    obtain ⟨b, -, rfl⟩ := Option.map_eq_some_iff.mp hx'
    obtain ⟨d, -, rfl⟩ := Option.map_eq_some_iff.mp hy'
    exact hxy

theorem get?_image (f : α → β) (t : Table κ α) (k : κ) : (t.image f).get? k = (t.get? k).map f := by
  rw [get?, image, List.find?_map, get?, Option.map_map, Option.map_map]
  rfl

theorem get?_filterMap (f : α → Option β) (t : Table κ α) (k : κ) :
    (t.filterMap f).get? k = (t.get? k).bind f := by
  refine Option.ext fun b => ?_
  rw [← mem_entries, filterMap, List.mem_filterMap, Option.bind_eq_some_iff]
  constructor
  · rintro ⟨⟨j, a⟩, hmem, heq⟩
    obtain ⟨b', hb', heq⟩ := Option.map_eq_some_iff.mp heq
    obtain ⟨rfl, rfl⟩ := Prod.mk.inj heq
    exact ⟨a, mem_entries.mp hmem, hb'⟩
  · rintro ⟨a, ha, hb⟩
    exact ⟨(k, a), mem_entries.mpr ha, Option.map_eq_some_iff.mpr ⟨b, hb, rfl⟩⟩

theorem count_image (f : α → β) (t : Table κ α) (p : β → Bool) :
    (t.image f).count p = t.count (p ∘ f) := List.countP_map

theorem count_filterMap (f : α → Option β) (t : Table κ α) (p : β → Bool) :
    (t.filterMap f).count p = t.count fun a => (f a).any p := by
  rw [count, filterMap, List.countP_filterMap, count]
  refine congrArg (List.countP · t.entries) (funext fun x => ?_)
  cases f x.2 <;> rfl

theorem size_image (f : α → β) (t : Table κ α) : (t.image f).size = t.size := List.length_map _

variable [DecidableEq κ]

theorem image_insert (f : α → β) (t : Table κ α) (k : κ) (a : α) :
    (t.insert k a).image f = (t.image f).insert k (f a) := by
  refine ext_get? fun j => ?_
  rw [get?_image, get?_insert, get?_insert, get?_image]
  by_cases hj : j = k
  · rw [if_pos hj, if_pos hj, Option.map_some]
  · rw [if_neg hj, if_neg hj]

theorem image_erase (f : α → β) (t : Table κ α) (k : κ) :
    (t.erase k).image f = (t.image f).erase k := by
  refine ext_get? fun j => ?_
  rw [get?_image, get?_erase, get?_erase, get?_image]
  by_cases hj : j = k
  · rw [if_pos hj, if_pos hj, Option.map_none]
  · rw [if_neg hj, if_neg hj]

theorem filterMap_insert_of_some {f : α → Option β} (t : Table κ α) (k : κ) {a : α} {b : β}
    (hf : f a = some b) : (t.insert k a).filterMap f = (t.filterMap f).insert k b := by
  refine ext_get? fun j => ?_
  rw [get?_filterMap, get?_insert, get?_insert, get?_filterMap]
  by_cases hj : j = k
  · rw [if_pos hj, if_pos hj, Option.bind_some, hf]
  · rw [if_neg hj, if_neg hj]

theorem filterMap_erase (f : α → Option β) (t : Table κ α) (k : κ) :
    (t.erase k).filterMap f = (t.filterMap f).erase k := by
  refine ext_get? fun j => ?_
  rw [get?_filterMap, get?_erase, get?_erase, get?_filterMap]
  by_cases hj : j = k
  · rw [if_pos hj, if_pos hj, Option.bind_none]
  · rw [if_neg hj, if_neg hj]

theorem filterMap_insert_of_none {f : α → Option β} (t : Table κ α) (k : κ) {a : α}
    (hf : f a = none) : (t.insert k a).filterMap f = (t.filterMap f).erase k := by
  refine ext_get? fun j => ?_
  rw [get?_filterMap, get?_insert, get?_erase, get?_filterMap]
  by_cases hj : j = k
  · rw [if_pos hj, if_pos hj, Option.bind_some, hf]
  · rw [if_neg hj, if_neg hj]

/-- A value that changes without its image does not show. -/
theorem filterMap_insert_of_eq {f : α → Option β} {t : Table κ α} {k : κ} {a a' : α}
    (h : t.get? k = some a) (hf : f a' = f a) : (t.insert k a').filterMap f = t.filterMap f := by
  refine ext_get? fun j => ?_
  rw [get?_filterMap, get?_insert, get?_filterMap]
  by_cases hj : j = k
  · rw [if_pos hj, hj, h, Option.bind_some, Option.bind_some, hf]
  · rw [if_neg hj]

end AudioLink.Table
