/-
Cutting a text at a separator and joining it again.

`split` always gives at least one segment and no segment holds the separator; `join` puts the
separator between segments. The two are inverse to each other on those lists.
-/
set_option autoImplicit false

namespace AudioLink.Segments

/-- The pieces of a text between the occurrences of `sep`. -/
def split (sep : Char) : List Char → List (List Char)
  | [] => [[]]
  | c :: cs =>
    if c = sep then [] :: split sep cs
    else
      match split sep cs with
      | [] => [[c]]
      | s :: rest => (c :: s) :: rest

/-- The segments with `sep` between each two of them. -/
def join (sep : Char) : List (List Char) → List Char
  | [] => []
  | [s] => s
  | s :: rest => s ++ sep :: join sep rest

/-! ## The two are inverse -/

theorem split_ne_nil (sep : Char) (cs : List Char) : split sep cs ≠ [] := by
  cases cs with
  | nil => simp [split]
  | cons c cs =>
    unfold split
    split
    · simp
    · split <;> simp

theorem join_cons (sep : Char) (s : List Char) {rest : List (List Char)} (h : rest ≠ []) :
    join sep (s :: rest) = s ++ sep :: join sep rest := by
  cases rest with
  | nil => exact absurd rfl h
  | cons t rest => rfl

/-- Nothing is lost by cutting. -/
theorem join_split (sep : Char) (cs : List Char) : join sep (split sep cs) = cs := by
  induction cs with
  | nil => rfl
  | cons c cs ih =>
    have hne := split_ne_nil sep cs
    unfold split
    by_cases hc : c = sep
    · rw [if_pos hc, join_cons sep [] hne, ih, hc]; rfl
    · rw [if_neg hc]
      cases hs : split sep cs with
      | nil => exact absurd hs hne
      | cons s rest =>
        rw [hs] at ih
        cases rest with
        | nil => simpa [join] using ih
        | cons t rest =>
          rw [join_cons sep s (List.cons_ne_nil t rest)] at ih
          rw [join_cons sep (c :: s) (List.cons_ne_nil t rest), List.cons_append, ih]

/-- A segment of a cut text does not hold the separator. -/
theorem not_mem_of_mem_split (sep : Char) :
    ∀ (cs : List Char) (s : List Char), s ∈ split sep cs → sep ∉ s := by
  intro cs
  induction cs with
  | nil => intro s hs; simp [split] at hs; simp [hs]
  | cons c cs ih =>
    intro s hs
    unfold split at hs
    by_cases hc : c = sep
    · rw [if_pos hc] at hs
      rcases List.mem_cons.1 hs with rfl | hs
      · simp
      · exact ih s hs
    · rw [if_neg hc] at hs
      cases hsplit : split sep cs with
      | nil => exact absurd hsplit (split_ne_nil sep cs)
      | cons t rest =>
        rw [hsplit] at hs
        have hall : ∀ u ∈ t :: rest, sep ∉ u := fun u hu => ih u (hsplit ▸ hu)
        rcases List.mem_cons.1 hs with rfl | hs
        · intro hmem
          rcases List.mem_cons.1 hmem with h | h
          · exact hc h.symm
          · exact hall t List.mem_cons_self h
        · exact hall s (List.mem_cons_of_mem t hs)

/-! ## Cutting what was joined -/

/-- A text without the separator is a single segment. -/
theorem split_of_not_mem {sep : Char} {s : List Char} (h : sep ∉ s) : split sep s = [s] := by
  induction s with
  | nil => rfl
  | cons c s ih =>
    rw [List.mem_cons, not_or] at h
    rw [split, if_neg (Ne.symm h.1), ih h.2]

/-- The first separator ends the first segment. -/
theorem split_append_sep {sep : Char} {s : List Char} (h : sep ∉ s) (cs : List Char) :
    split sep (s ++ sep :: cs) = s :: split sep cs := by
  induction s with
  | nil => rw [List.nil_append, split, if_pos rfl]
  | cons c s ih =>
    rw [List.mem_cons, not_or] at h
    rw [List.cons_append, split, if_neg (Ne.symm h.1), ih h.2]

/-- Segments without the separator are found again. -/
theorem split_join {sep : Char} {segments : List (List Char)} (hne : segments ≠ [])
    (h : ∀ s ∈ segments, sep ∉ s) : split sep (join sep segments) = segments := by
  induction segments with
  | nil => exact absurd rfl hne
  | cons s rest ih =>
    have hs := h s List.mem_cons_self
    by_cases hrest : rest = []
    · subst hrest
      exact split_of_not_mem hs
    · rw [join_cons sep s hrest, split_append_sep hs,
        ih hrest fun t ht => h t (List.mem_cons_of_mem s ht)]

/-- Joining brings in nothing but the separator. -/
theorem mem_join {sep c : Char} {segments : List (List Char)} (h : c ∈ join sep segments) :
    c = sep ∨ ∃ s ∈ segments, c ∈ s := by
  induction segments with
  | nil => exact absurd h List.not_mem_nil
  | cons s rest ih =>
    by_cases hrest : rest = []
    · subst hrest
      exact .inr ⟨s, List.mem_cons_self, h⟩
    · rw [join_cons sep s hrest, List.mem_append, List.mem_cons] at h
      rcases h with h | h | h
      · exact .inr ⟨s, List.mem_cons_self, h⟩
      · exact .inl h
      · rcases ih h with h | ⟨t, ht, hc⟩
        · exact .inl h
        · exact .inr ⟨t, List.mem_cons_of_mem s ht, hc⟩

/-- A character of a segment is one of the text. -/
theorem mem_of_mem_split {sep c : Char} {cs s : List Char} (hs : s ∈ split sep cs) (hc : c ∈ s) :
    c ∈ cs := by
  induction cs generalizing s with
  | nil =>
    rw [split, List.mem_singleton] at hs
    exact hs ▸ hc
  | cons d cs ih =>
    unfold split at hs
    by_cases hd : d = sep
    · rw [if_pos hd] at hs
      rcases List.mem_cons.1 hs with rfl | hs
      · exact absurd hc List.not_mem_nil
      · exact List.mem_cons_of_mem d (ih hs hc)
    · rw [if_neg hd] at hs
      cases hsplit : split sep cs with
      | nil => exact absurd hsplit (split_ne_nil sep cs)
      | cons t rest =>
        rw [hsplit] at hs
        have hrest : ∀ u ∈ t :: rest, c ∈ u → c ∈ cs := fun u hu => ih (hsplit ▸ hu)
        rcases List.mem_cons.1 hs with rfl | hs
        · rcases List.mem_cons.1 hc with rfl | hc
          · exact List.mem_cons_self
          · exact List.mem_cons_of_mem d (hrest t List.mem_cons_self hc)
        · exact List.mem_cons_of_mem d (hrest s (List.mem_cons_of_mem t hs) hc)

end AudioLink.Segments
