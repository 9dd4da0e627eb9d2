import AudioLink.Toml.Statement

/-
Keys with their values fill a table in any order.

A key of several parts makes tables on its way, and other such keys may add to them, so whether a
key can still be given a value depends on what keys have gone before. `IsFree` says that it can. All
keys are free in an empty table, and of two keys of which neither is a part of the other each stays
free when the other is given its value. So a table takes all of its keys, and what stands under a
name depends on no order.
-/
set_option autoImplicit false

namespace AudioLink.Toml

/-! ## Lists by name -/

section Names

variable {α : Type} {fields : List (String × α)} {name : String}

theorem find?_name_eq_none_iff :
    (fields.find? (·.1 = name)).map (·.2) = none ↔ name ∉ fields.map Prod.fst := by
  simp only [Option.map_eq_none_iff, List.find?_eq_none, decide_eq_true_eq, List.mem_map, not_exists,
    not_and]

theorem find?_name_eq_some_iff (hnodup : (fields.map Prod.fst).Nodup) {a : α} :
    (fields.find? (·.1 = name)).map (·.2) = some a ↔ (name, a) ∈ fields := by
  induction fields with
  | nil => simp
  | cons x fields ih =>
    rw [List.map_cons, List.nodup_cons] at hnodup
    obtain ⟨hnew, hnodup⟩ := hnodup
    by_cases hx : x.1 = name
    · have hother : (name, a) ∉ fields := by
        intro hmem
        exact hnew (hx ▸ List.mem_map_of_mem hmem)
      obtain ⟨name', a'⟩ := x
      obtain rfl : name' = name := hx
      simp [hother, eq_comm]
    · have hne : (name, a) ≠ x := by
        rintro rfl
        exact hx rfl
      rw [List.find?_cons_of_neg (by simpa using hx), ih hnodup]
      simp [hne]

end Names

/-! ## Tables by name -/

namespace Fields

theorem get?_eq_none_iff {fields : Fields} {name : String} :
    get? fields name = none ↔ name ∉ fields.map Prod.fst :=
  find?_name_eq_none_iff

theorem get?_eq_some_iff {fields : Fields} (hnodup : (fields.map Prod.fst).Nodup) {name : String}
    {node : Node} : get? fields name = some node ↔ (name, node) ∈ fields :=
  find?_name_eq_some_iff hnodup

/-- What is set is found. -/
theorem get?_set_self (name : String) (node : Node) (fields : Fields) :
    get? (set name node fields) name = some node := by
  induction fields with
  | nil => simp [set, get?]
  | cons x fields ih =>
    by_cases hx : x.1 = name
    · simp [set, get?, hx]
    · simpa [set, get?, hx] using ih

/-- Other names are found as before. -/
theorem get?_set_of_ne {name other : String} (hne : other ≠ name) (node : Node) (fields : Fields) :
    get? (set name node fields) other = get? fields other := by
  induction fields with
  | nil => simp [set, get?, hne.symm]
  | cons x fields ih =>
    by_cases hx : x.1 = name
    · simp [set, get?, hx, hne.symm]
    · rw [set, if_neg hx]
      by_cases hother : x.1 = other
      · simp [get?, hother]
      · simpa [get?, hother] using ih

/-- Setting adds no name but its own. -/
theorem fst_mem_of_mem_set {name : String} {node : Node} {fields : Fields} {x : String × Node}
    (hx : x ∈ set name node fields) : x.1 = name ∨ x.1 ∈ fields.map Prod.fst := by
  induction fields with
  | nil => exact .inl (congrArg Prod.fst (List.mem_singleton.mp hx))
  | cons y fields ih =>
    by_cases hy : y.1 = name
    · rw [set, if_pos hy] at hx
      rcases List.mem_cons.mp hx with rfl | hx
      · exact .inl rfl
      · exact .inr (List.mem_cons_of_mem _ (List.mem_map_of_mem hx))
    · rw [set, if_neg hy] at hx
      rcases List.mem_cons.mp hx with rfl | hx
      · exact .inr List.mem_cons_self
      · exact (ih hx).imp_right (List.mem_cons_of_mem _)

/-- Each name stands once still. -/
theorem nodup_set {fields : Fields} (hnodup : (fields.map Prod.fst).Nodup) (name : String)
    (node : Node) : ((set name node fields).map Prod.fst).Nodup := by
  induction fields with
  | nil => exact List.pairwise_singleton _ name
  | cons x fields ih =>
    rw [List.map_cons, List.nodup_cons] at hnodup
    obtain ⟨hnew, hnodup⟩ := hnodup
    by_cases hx : x.1 = name
    · rw [set, if_pos hx, List.map_cons, List.nodup_cons, ← hx]
      exact ⟨hnew, hnodup⟩
    · rw [set, if_neg hx, List.map_cons, List.nodup_cons]
      refine ⟨fun hmem => ?_, ih hnodup⟩
      obtain ⟨y, hy, hyx⟩ := List.mem_map.mp hmem
      rw [← hyx] at hx hnew
      exact (fst_mem_of_mem_set hy).elim hx hnew

end Fields

/-! ## Keys that do not meet -/

/-- Neither key is the other one or the beginning of it. -/
def Apart (key key' : List String) : Prop := ¬ key <+: key' ∧ ¬ key' <+: key

instance (key key' : List String) : Decidable (Apart key key') :=
  inferInstanceAs (Decidable (_ ∧ _))

theorem Apart.symm {key key' : List String} (h : Apart key key') : Apart key' key := ⟨h.2, h.1⟩

/-- Keys that begin alike are apart by what follows. -/
theorem apart_cons {name : String} {path path' : List String}
    (h : Apart (name :: path) (name :: path')) : Apart path path' :=
  ⟨fun hpath => h.1 ((List.prefix_cons_inj name).mpr hpath),
    fun hpath => h.2 ((List.prefix_cons_inj name).mpr hpath)⟩

/-- Keys apart from a name begin with another one. -/
theorem Apart.head?_ne {name : String} {key : List String} (h : Apart [name] key) :
    key.head? ≠ some name := by
  cases key with
  | nil => exact absurd List.nil_prefix h.2
  | cons other key =>
    intro hhead
    obtain rfl : other = name := Option.some.inj hhead
    exact h.1 ⟨key, rfl⟩

/-- Keys that begin with different names are apart. -/
theorem apart_of_head?_ne {name : String} {path key : List String} (hne : key ≠ [])
    (hhead : key.head? ≠ some name) : Apart (name :: path) key := by
  obtain ⟨other, key, rfl⟩ := List.exists_cons_of_ne_nil hne
  have hother : other ≠ name := fun h => hhead (congrArg some h)
  exact ⟨fun h => hother (List.cons_prefix_cons.mp h).1.symm,
    fun h => hother (List.cons_prefix_cons.mp h).1⟩

namespace Fields

/-! ## Free keys -/

/-- A key that can be given a value: it leads through tables that other such keys have made to a name
that is new. -/
def IsFree : List String → Fields → Prop
  | [], _ => False
  | [name], fields => get? fields name = none
  | name :: step :: path, fields =>
    match get? fields name with
    | none => True
    | some (.table .dotted inner) => IsFree (step :: path) inner
    | some _ => False

/-- Everything is free in an empty table. -/
theorem isFree_nil {key : List String} (hkey : key ≠ []) : IsFree key [] := by
  match key with
  | [name] => exact rfl
  | name :: step :: path => exact trivial

/-- Only what stands under its first name matters for a key. -/
theorem IsFree.congr {name : String} {path : List String} {fields fields' : Fields}
    (hsame : get? fields' name = get? fields name) (h : IsFree (name :: path) fields) :
    IsFree (name :: path) fields' := by
  cases path with
  | nil => exact hsame.trans h
  | cons step path =>
    rw [IsFree] at h ⊢
    rwa [hsame]

/-- What giving a key its value does to a table. -/
structure Takes (fields : Fields) (key : List String) (v : Value) (fields' : Fields) : Prop where
  value : ∀ name, key = [name] → get? fields' name = some (.value v)
  other : ∀ name, key.head? ≠ some name → get? fields' name = get? fields name
  free : ∀ key', Apart key key' → IsFree key' fields → IsFree key' fields'
  nodup : (fields.map Prod.fst).Nodup → (fields'.map Prod.fst).Nodup

/-- A table on the way to a key is changed in its place. -/
theorem Takes.inside {name : String} {key : List String} {v : Value} {fields inner inner' : Fields}
    (h : Takes inner key v inner') (hkey : key ≠ [])
    (hfree : ∀ path, IsFree (name :: path) fields → path ≠ [] → IsFree path inner) :
    Takes fields (name :: key) v (set name (.table .dotted inner') fields) where
  value other hother := absurd (List.cons.inj hother).2 hkey
  other other hother := get?_set_of_ne (fun heq => hother (congrArg some heq.symm)) _ _
  free key' hapart hkey' := by
    cases key' with
    | nil => exact hkey'.elim
    | cons other path =>
      by_cases hother : other = name
      · subst hother
        have hpath : Apart key path := apart_cons hapart
        cases path with
        | nil => exact absurd List.nil_prefix hpath.2
        | cons step path =>
          rw [IsFree, get?_set_self]
          exact h.free _ hpath (hfree _ hkey' (List.cons_ne_nil step path))
      · exact hkey'.congr (get?_set_of_ne hother _ _)
  nodup hnodup := nodup_set hnodup _ _

/-- A value is assigned wherever its key is free, and the table takes it there. -/
theorem exists_assign {name : String} {v : Value} {fields : Fields} (path : List String)
    (inDotted : Bool) (hdotted : path = [] → inDotted = true)
    (hfree : IsFree (path ++ [name]) fields) :
    ∃ fields', assign name v inDotted path fields = some fields' ∧
      Takes fields (path ++ [name]) v fields' := by
  -- Each step of the path leads to a table that is there, or to an empty one.
  induction path generalizing fields inDotted with
  | nil =>
    have hnew : get? fields name = none := hfree
    refine ⟨set name (.value v) fields, ?_, ?_, ?_, ?_, fun hnodup => nodup_set hnodup _ _⟩
    · rw [assign, if_pos (hdotted rfl), put, hnew]
    · intro other hother
      rw [← (List.cons.inj hother).1]
      exact get?_set_self _ _ _
    · exact fun other hother => get?_set_of_ne (fun heq => hother (congrArg some heq.symm)) _ _
    · intro key hapart hkey
      cases key with
      | nil => exact hkey.elim
      | cons other key =>
        exact hkey.congr (get?_set_of_ne (fun heq => hapart.head?_ne (congrArg some heq)) _ _)
  | cons step path ih =>
    have hne : path ++ [name] ≠ [] := List.append_ne_nil_of_right_ne_nil path (List.cons_ne_nil _ _)
    obtain ⟨next, rest, hrest⟩ := List.exists_cons_of_ne_nil hne
    rw [List.cons_append, hrest, IsFree] at hfree
    rw [assign, List.cons_append]
    split at hfree
    · rename_i hnew
      obtain ⟨inner, hassign, htakes⟩ := @ih [] true (fun _ => rfl) (isFree_nil hne)
      rw [hnew]
      exact ⟨_, by simp only [hassign, Option.map_some],
        htakes.inside hne fun _ _ hpath => isFree_nil hpath⟩
    · rename_i inner hthere
      rw [← hrest] at hfree
      obtain ⟨inner', hassign, htakes⟩ := @ih inner true (fun _ => rfl) hfree
      rw [hthere]
      refine ⟨_, by simp only [decide_true, hassign, Option.map_some], htakes.inside hne ?_⟩
      intro path' hpath' hne'
      obtain ⟨step', path', rfl⟩ := List.exists_cons_of_ne_nil hne'
      rwa [IsFree, hthere] at hpath'
    · exact hfree.elim

/-- A free key is given its value. -/
theorem exists_addPair {key : List String} {fields : Fields} (hfree : IsFree key fields)
    (v : Value) : ∃ fields', addPair fields key v = some fields' ∧ Takes fields key v fields' := by
  rcases List.eq_nil_or_concat key with rfl | ⟨path, name, rfl⟩
  · exact hfree.elim
  rw [List.concat_eq_append] at hfree ⊢
  have hadd : addPair fields (path ++ [name]) v = fields.assignKey path name v := by
    rw [addPair, List.getLast?_concat, List.dropLast_concat]
  rw [hadd, assignKey]
  by_cases hpath : path = []
  · subst hpath
    rw [if_pos rfl]
    exact exists_assign [] true (fun _ => rfl) hfree
  · rw [if_neg hpath]
    exact exists_assign path false (fun h => absurd h hpath) hfree

/-! ## All keys of a table -/

/-- Gives keys their values, one after the other. -/
def addPairs (pairs : List (List String × Value)) (fields : Fields) : Option Fields :=
  pairs.foldlM (fun fields pair => addPair fields pair.1 pair.2) fields

/-- What giving keys their values does to a table. -/
structure TakesAll (fields : Fields) (pairs : List (List String × Value)) (fields' : Fields) :
    Prop where
  value : ∀ name v, ([name], v) ∈ pairs → get? fields' name = some (.value v)
  other : ∀ name, (∀ pair ∈ pairs, pair.1.head? ≠ some name) →
    get? fields' name = get? fields name
  nodup : (fields.map Prod.fst).Nodup → (fields'.map Prod.fst).Nodup

/-- Keys that do not meet are all given their values. -/
theorem exists_addPairs {pairs : List (List String × Value)} {fields : Fields}
    (hfree : ∀ pair ∈ pairs, IsFree pair.1 fields) (hapart : (pairs.map Prod.fst).Pairwise Apart) :
    ∃ fields', addPairs pairs fields = some fields' ∧ TakesAll fields pairs fields' := by
  induction pairs generalizing fields with
  | nil => exact ⟨fields, rfl, nofun, fun _ _ => rfl, id⟩
  | cons pair pairs ih =>
    obtain ⟨key, v⟩ := pair
    rw [List.map_cons, List.pairwise_cons] at hapart
    obtain ⟨hfirst, hapart⟩ := hapart
    rw [List.forall_mem_map] at hfirst
    obtain ⟨middle, hadd, htakes⟩ := exists_addPair (hfree _ List.mem_cons_self) v
    obtain ⟨fields', hadds, hvalue, hother, hnodup⟩ := @ih middle
      (fun pair hpair =>
        htakes.free _ (hfirst pair hpair) (hfree pair (List.mem_cons_of_mem _ hpair)))
      hapart
    refine ⟨fields', ?_, ?_, ?_, fun h => hnodup (htakes.nodup h)⟩
    · rw [addPairs, List.foldlM_cons, hadd]
      exact hadds
    · intro name w hmem
      rcases List.mem_cons.mp hmem with heq | hmem
      · -- The other keys begin with other names.
        obtain ⟨rfl, rfl⟩ := Prod.mk.inj heq
        rw [hother name fun pair hpair => (hfirst pair hpair).head?_ne]
        exact htakes.value name rfl
      · exact hvalue name w hmem
    · intro name hname
      rw [List.forall_mem_cons] at hname
      rw [hother name hname.2, htakes.other name hname.1]

end Fields
end AudioLink.Toml
