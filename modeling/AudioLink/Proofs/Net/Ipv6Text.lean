import AudioLink.Net.Ip

/-
The text of an IPv6 address is read as that address.

The text has at most one place where two colons meet, and that is where the longest run of zero
groups was left out: every group is written with at least one digit, and between two groups stands
one colon. So the reader cuts the text where the writer has cut the groups, finds each group by its
digits, and fills in as many zero groups as eight groups lack. That the run was a run of zeros is
the one fact about `longestRun` that is needed; that it was the longest does not matter here.
-/
set_option autoImplicit false

namespace AudioLink.Ipv6

/-! ## Groups -/

/-- The numeral of a group. -/
def groupText (g : UInt16) : List Char := Digits.hex g.toNat

theorem groupText_ne_nil (g : UInt16) : groupText g ≠ [] := Nat.toDigits_ne_nil

theorem colon_not_mem_groupText (g : UInt16) : ':' ∉ groupText g := by
  intro h
  have hhex := Digits.isHex_of_mem_hex h
  exact absurd hhex (by decide)

/-- A group is read from its numeral. -/
theorem group?_groupText (g : UInt16) : group? (groupText g) = some g := by
  have hlen : (groupText g).length ≤ 4 :=
    (Nat.length_toDigits_le_iff (by decide) (by decide)).2 g.toNat_lt
  have hcond : ¬ (groupText g = [] ∨ 4 < (groupText g).length) :=
    not_or.2 ⟨groupText_ne_nil g, Nat.not_lt.2 hlen⟩
  rw [group?, if_neg hcond]
  unfold groupText
  rw [Digits.inRadix?_hex]
  simp

theorem mapM_group?_groupText (gs : List UInt16) : (gs.map groupText).mapM group? = some gs := by
  induction gs with
  | nil => rfl
  | cons g gs ih => simp [group?_groupText, ih]

/-- The last group is read as a group, and not as an IPv4 address. -/
theorem groupsWithTail?_groupText (gs : List UInt16) :
    groupsWithTail? (gs.map groupText) = some gs := by
  induction gs with
  | nil => rfl
  | cons g gs ih =>
    cases gs with
    | nil => simp [groupsWithTail?, group?_groupText]
    | cons h gs =>
      simp only [List.map_cons] at ih ⊢
      simp [groupsWithTail?, group?_groupText, ih]

/-! ## Groups with colons between them -/

theorem joinGroups_eq (gs : List UInt16) : joinGroups gs = Segments.join ':' (gs.map groupText) :=
  rfl

theorem joinGroups_cons_cons (g h : UInt16) (gs : List UInt16) :
    joinGroups (g :: h :: gs) = groupText g ++ ':' :: joinGroups (h :: gs) := rfl

/-- Joined groups begin with a digit. -/
theorem exists_cons_joinGroups (g : UInt16) (gs : List UInt16) :
    ∃ c cs, c ≠ ':' ∧ joinGroups (g :: gs) = c :: cs := by
  obtain ⟨c, cs, hc⟩ := List.exists_cons_of_ne_nil (groupText_ne_nil g)
  have hne : c ≠ ':' := by
    rintro rfl
    exact colon_not_mem_groupText g (hc ▸ List.mem_cons_self)
  cases gs with
  | nil => exact ⟨c, cs, hne, hc⟩
  | cons h gs =>
    refine ⟨c, cs ++ ':' :: joinGroups (h :: gs), hne, ?_⟩
    rw [joinGroups_cons_cons, hc]
    rfl

/-- Joined groups are cut into the numerals again. -/
theorem split_joinGroups {gs : List UInt16} (hne : gs ≠ []) :
    Segments.split ':' (joinGroups gs) = gs.map groupText := by
  rw [joinGroups_eq]
  refine Segments.split_join (fun h => hne (List.map_eq_nil_iff.1 h)) fun s hs => ?_
  obtain ⟨g, -, rfl⟩ := List.mem_map.1 hs
  exact colon_not_mem_groupText g

theorem pieces_joinGroups (gs : List UInt16) : pieces (joinGroups gs) = gs.map groupText := by
  cases gs with
  | nil => rfl
  | cons g gs =>
    obtain ⟨c, cs, -, hcs⟩ := exists_cons_joinGroups g gs
    have hne : joinGroups (g :: gs) ≠ [] := hcs ▸ List.cons_ne_nil c cs
    rw [pieces, if_neg hne, split_joinGroups (List.cons_ne_nil g gs)]

/-- Joined groups hold hexadecimal digits and colons. -/
theorem mem_joinGroups {gs : List UInt16} {c : Char} (h : c ∈ joinGroups gs) :
    c = ':' ∨ Digits.isHex c = true := by
  rcases Segments.mem_join h with rfl | ⟨s, hs, hc⟩
  · exact .inl rfl
  · obtain ⟨g, -, rfl⟩ := List.mem_map.1 hs
    exact .inr (Digits.isHex_of_mem_hex hc)

/-! ## Where two colons meet -/

theorem splitElision_cons_of_ne {c : Char} (h : c ≠ ':') (cs : List Char) :
    splitElision (c :: cs) = (splitElision cs).map fun (l, r) => (c :: l, r) := by
  rw [splitElision]
  exact fun _ hc => absurd hc h

theorem splitElision_colon_of_ne {c : Char} (h : c ≠ ':') (cs : List Char) :
    splitElision (':' :: c :: cs) = (splitElision (c :: cs)).map fun (l, r) => (':' :: l, r) := by
  rw [splitElision]
  intro rest _ hrest
  exact h (List.cons.inj hrest).1

theorem splitElision_append_of_not_mem {p : List Char} (h : ':' ∉ p) (cs : List Char) :
    splitElision (p ++ cs) = (splitElision cs).map fun (l, r) => (p ++ l, r) := by
  induction p with
  | nil => simp
  | cons c p ih =>
    rw [List.mem_cons, not_or] at h
    rw [List.cons_append, splitElision_cons_of_ne (Ne.symm h.1), ih h.2, Option.map_map]
    rfl

/-- No two colons meet within joined groups, nor at the end of them. -/
theorem splitElision_joinGroups_append (gs : List UInt16) (cs : List Char) :
    splitElision (joinGroups gs ++ cs)
      = (splitElision cs).map fun (l, r) => (joinGroups gs ++ l, r) := by
  induction gs with
  | nil => simp [joinGroups, Segments.join]
  | cons g gs ih =>
    cases gs with
    | nil => exact splitElision_append_of_not_mem (colon_not_mem_groupText g) cs
    | cons h gs =>
      -- The colon behind the first group is followed by a digit of the second.
      obtain ⟨c, tail, hne, htail⟩ := exists_cons_joinGroups h gs
      rw [joinGroups_cons_cons, List.append_assoc, List.cons_append,
        splitElision_append_of_not_mem (colon_not_mem_groupText g)]
      rw [htail] at ih ⊢
      rw [List.cons_append, splitElision_colon_of_ne hne, ← List.cons_append, ih, Option.map_map,
        Option.map_map]
      congr 1
      funext x
      simp

/-! ## The run of zeros that is left out -/

theorem eq_replicate_leadingZeros_append (gs : List UInt16) :
    gs = List.replicate (leadingZeros gs) 0 ++ gs.drop (leadingZeros gs) := by
  induction gs with
  | nil => rfl
  | cons g gs ih =>
    by_cases hg : g = 0
    · subst hg
      have hcount : leadingZeros (0 :: gs) = leadingZeros gs + 1 := by simp [leadingZeros]
      rw [hcount, List.replicate_succ, List.cons_append, List.drop_succ_cons, ← ih]
    · have hcount : leadingZeros (g :: gs) = 0 := by simp [leadingZeros, hg]
      rw [hcount]; rfl

/-- A run that is not empty is the run of zeros at its start. -/
theorem leadingZeros_of_longestRun {gs : List UInt16} {n start len : Nat}
    (h : longestRun gs n = (start, len)) (hlen : 0 < len) :
    leadingZeros (gs.drop start) = len := by
  induction n with
  | zero =>
    rw [longestRun, Prod.mk.injEq] at h
    omega
  | succ n ih =>
    rw [longestRun] at h
    by_cases hbest : (longestRun gs n).2 < leadingZeros (gs.drop n)
    · simp only [hbest, if_true, Prod.mk.injEq] at h
      obtain ⟨rfl, rfl⟩ := h
      rfl
    · simp only [hbest, if_false] at h
      exact ih h

/-- Putting the zeros back gives the groups again. -/
theorem take_append_zeros_append_drop {gs : List UInt16} {n start len : Nat}
    (h : longestRun gs n = (start, len)) (hlen : 0 < len) :
    gs.take start ++ List.replicate len 0 ++ gs.drop (start + len) = gs := by
  have hzeros := eq_replicate_leadingZeros_append (gs.drop start)
  rw [leadingZeros_of_longestRun h hlen, List.drop_drop] at hzeros
  rw [List.append_assoc, ← hzeros, List.take_append_drop]

/-! ## Reading what was written -/

theorem ofGroups?_groups (ip : Ipv6) : ofGroups? ip.groups = some ip := by
  rw [ofGroups?, dif_pos ip.length_groups]

/-- Reading the text of an address gives the address back, so no two addresses share a text. -/
theorem ofText?_text (ip : Ipv6) : ofText? ip.text = some ip := by
  rcases hrun : longestRun ip.groups 8 with ⟨start, len⟩
  by_cases hlen : 2 ≤ len
  · have htext : ip.text = joinGroups (ip.groups.take start)
        ++ ':' :: ':' :: joinGroups (ip.groups.drop (start + len)) := by
      simp [text, hrun, hlen]
    have hgroups := take_append_zeros_append_drop hrun (by omega)
    have hcount := congrArg List.length hgroups
    simp only [List.length_append, List.length_replicate, ip.length_groups] at hcount
    have hwritten :
        (ip.groups.take start).length + (ip.groups.drop (start + len)).length ≤ 7 := by omega
    have hmissing :
        8 - ((ip.groups.take start).length + (ip.groups.drop (start + len)).length) = len := by
      omega
    rw [htext, ofText?, splitElision_joinGroups_append]
    simp only [splitElision, Option.map_some, List.append_nil, pieces_joinGroups,
      mapM_group?_groupText, groupsWithTail?_groupText, Option.bind_eq_bind, Option.bind_some,
      hmissing, if_pos hwritten]
    rw [hgroups, ofGroups?_groups]
  · have htext : ip.text = joinGroups ip.groups ++ [] := by simp [text, hrun, hlen]
    have hne : ip.groups ≠ [] := by
      intro h
      have hcount := ip.length_groups
      rw [h] at hcount
      exact absurd hcount (by decide)
    rw [htext, ofText?, splitElision_joinGroups_append]
    simp [splitElision, split_joinGroups hne, groupsWithTail?_groupText, ofGroups?_groups]

/-- The text of an address holds hexadecimal digits and colons. -/
theorem mem_text {ip : Ipv6} {c : Char} (h : c ∈ ip.text) : c = ':' ∨ Digits.isHex c = true := by
  rcases hrun : longestRun ip.groups 8 with ⟨start, len⟩
  rw [text, hrun] at h
  by_cases hlen : 2 ≤ len
  · simp only [if_pos hlen, List.mem_append, List.mem_cons, List.not_mem_nil, or_false, or_self]
      at h
    rcases h with (h | h) | h
    · exact mem_joinGroups h
    · exact .inl h
    · exact mem_joinGroups h
  · simp only [if_neg hlen] at h
    exact mem_joinGroups h

end AudioLink.Ipv6
