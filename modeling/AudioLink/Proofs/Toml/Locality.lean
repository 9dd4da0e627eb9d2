import AudioLink.Proofs.Text
import AudioLink.Toml.Statement

/-
What is on a line is read the same way whatever follows the line.

A reader stays on its line if it finds in front of other lines what it finds on the line by itself,
and stops at the same place. That is not true of readers of strings and lists as such: these may
go on with the next line. But a reader that has come to an end on the line had no reason to look
further, so it is true of everything that is there on the line as a whole. The lemmas follow the
readers, each from those that it calls.
-/
set_option autoImplicit false

namespace AudioLink.Toml

/-! ## Lines -/

/-- A text without the end of a line. -/
def IsOneLine (cs : List Char) : Prop := ∀ c ∈ cs, c ≠ '\n' ∧ c ≠ '\r'

instance (cs : List Char) : Decidable (IsOneLine cs) := List.decidableBAll _ _

namespace IsOneLine

variable {c : Char} {cs : List Char}

theorem tail (h : IsOneLine (c :: cs)) : IsOneLine cs := fun d hd => h d (List.mem_cons_of_mem c hd)

theorem drop (h : IsOneLine cs) (n : Nat) : IsOneLine (cs.drop n) :=
  fun d hd => h d (List.mem_of_mem_drop hd)

theorem dropWhile (h : IsOneLine cs) (p : Char → Bool) : IsOneLine (cs.dropWhile p) :=
  fun d hd => h d (List.dropWhile_subset p hd)

theorem skipBlanks (h : IsOneLine cs) : IsOneLine (skipBlanks cs) := h.dropWhile isBlank

/-- There is no end of a line inside a line. -/
theorem lineEnd?_eq (h : IsOneLine cs) : lineEnd? cs = none := by
  unfold lineEnd?
  split
  · exact absurd rfl (h '\n' (by simp)).1
  · exact absurd rfl (h '\r' (by simp)).2
  · rfl

/-- The end of a line is not at its front, unless there is nothing else on it. -/
theorem lineEnd?_append (h : IsOneLine (c :: cs)) (more : List Char) :
    lineEnd? (c :: (cs ++ '\n' :: more)) = none := by
  obtain ⟨hnewline, hreturn⟩ := h c (by simp)
  rw [lineEnd?]
  · exact fun _ heq => hnewline (List.cons.inj heq).1
  · exact fun _ heq => hreturn (List.cons.inj heq).1

end IsOneLine

/-- What is taken ends at the end of the line. -/
theorem takeWhile_newline {p : Char → Bool} (hp : p '\n' = false) (cs more : List Char) :
    (cs ++ '\n' :: more).takeWhile p = cs.takeWhile p := by
  induction cs with
  | nil => simp [hp]
  | cons c cs ih => simp only [List.cons_append, List.takeWhile_cons, ih]

/-- What is dropped ends at the end of the line. -/
theorem dropWhile_newline {p : Char → Bool} (hp : p '\n' = false) (cs more : List Char) :
    (cs ++ '\n' :: more).dropWhile p = cs.dropWhile p ++ '\n' :: more := by
  induction cs with
  | nil => simp [hp]
  | cons c cs ih =>
    simp only [List.cons_append, List.dropWhile_cons, ih]
    split
    · rfl
    · rfl

/-- Blanks are skipped up to the end of the line. -/
theorem skipBlanks_newline (cs more : List Char) :
    skipBlanks (cs ++ '\n' :: more) = skipBlanks cs ++ '\n' :: more :=
  dropWhile_newline (by decide) cs more

/-- A text that does not begin with some characters does not do so in front of other lines. -/
theorem not_append_of_not {p rest : List Char} (hp : '\n' ∉ p)
    (hrest : ∀ cs, rest = p ++ cs → False) (more cs : List Char)
    (heq : rest ++ '\n' :: more = p ++ cs) : False := by
  rcases List.append_eq_append_iff.mp heq with ⟨more', rfl, hmore⟩ | ⟨cs', hcs, -⟩
  · cases more' with
    | nil => exact hrest [] (by simp)
    | cons c more' =>
      obtain ⟨rfl, -⟩ := List.cons.inj hmore
      simp at hp
  · exact hrest cs' hcs

/-! ## Readers that stay on a line -/

section Readers

variable {α β : Type}

/-- What the reader finds in this text by itself it also finds in front of other lines. -/
def StaysAt (reader : List Char → Option (α × List Char)) (cs : List Char) : Prop :=
  ∀ a rest, reader cs = some (a, rest) →
    IsOneLine rest ∧ ∀ more, reader (cs ++ '\n' :: more) = some (a, rest ++ '\n' :: more)

/-- What the reader finds on a line by itself it also finds in front of other lines. -/
def StaysOnLine (reader : List Char → Option (α × List Char)) : Prop :=
  ∀ cs, IsOneLine cs → StaysAt reader cs

/-- Goes on with one reader behind a certain character, and with another one where the text does not
begin with it. -/
def branch (c : Char) (next other : List Char → Option (α × List Char)) (cs : List Char) :
    Option (α × List Char) :=
  if cs.head? = some c then next cs.tail else other cs

section Branch

variable {c : Char} {next other : List Char → Option (α × List Char)}

theorem branch_cons (rest : List Char) : branch c next other (c :: rest) = next rest := if_pos rfl

theorem branch_of_ne {cs : List Char} (hcs : ∀ rest, cs = c :: rest → False) :
    branch c next other cs = other cs := by
  refine if_neg fun hhead => ?_
  obtain ⟨rest, hrest⟩ := List.head?_eq_some_iff.mp hhead
  exact hcs rest hrest

end Branch

namespace StaysAt

variable {reader reader' : List Char → Option (α × List Char)} {cs cs' : List Char}

/-- A reader that refuses a line says nothing of what follows it. -/
theorem of_none (hread : reader cs = none) : StaysAt reader cs :=
  fun _ _ h => absurd (hread.symm.trans h) nofun

/-- What a reader leaves of a line it leaves in front of the next one. -/
theorem of_some {a : α} {rest : List Char} (hrest : IsOneLine rest)
    (hread : reader cs = some (a, rest))
    (hmore : ∀ more, reader (cs ++ '\n' :: more) = some (a, rest ++ '\n' :: more)) :
    StaysAt reader cs := by
  intro b rest' h
  obtain ⟨rfl, rfl⟩ := Prod.mk.inj (Option.some.inj (hread.symm.trans h))
  exact ⟨hrest, hmore⟩

/-- A reader that goes on as another one does. -/
theorem same (h : StaysAt reader' cs') (hread : reader cs = reader' cs')
    (hmore : ∀ more, reader (cs ++ '\n' :: more) = reader' (cs' ++ '\n' :: more)) :
    StaysAt reader cs := by
  intro a rest ha
  obtain ⟨hrest, h⟩ := h a rest (hread.symm.trans ha)
  exact ⟨hrest, fun more => (hmore more).trans (h more)⟩

/-- A reader that goes on as another one does and makes something of what that one finds. -/
theorem map {f : α → β} {reader : List Char → Option (β × List Char)} (h : StaysAt reader' cs')
    (hread : reader cs = (reader' cs').map fun read => (f read.1, read.2))
    (hmore : ∀ more, reader (cs ++ '\n' :: more) =
      (reader' (cs' ++ '\n' :: more)).map fun read => (f read.1, read.2)) :
    StaysAt reader cs := by
  intro b rest hb
  rw [hread, Option.map_eq_some_iff] at hb
  obtain ⟨⟨a, rest'⟩, ha, hb⟩ := hb
  obtain ⟨rfl, rfl⟩ := Prod.mk.inj hb
  obtain ⟨hrest, h⟩ := h a rest' ha
  exact ⟨hrest, fun more => by rw [hmore, h]; rfl⟩

end StaysAt

namespace StaysOnLine

variable {reader reader' : List Char → Option (α × List Char)}

theorem congr (h : StaysOnLine reader') (hread : ∀ cs, reader cs = reader' cs) :
    StaysOnLine reader := fun cs hline => (h cs hline).same (hread cs) fun _ => hread _

theorem pure (a : α) : StaysOnLine fun cs => some (a, cs) :=
  fun _ hline => .of_some hline rfl fun _ => rfl

theorem none : StaysOnLine fun _ => (Option.none : Option (α × List Char)) :=
  fun _ _ => .of_none rfl

theorem map (f : α → β) (h : StaysOnLine reader) :
    StaysOnLine fun cs => (reader cs).map fun read => (f read.1, read.2) :=
  fun cs hline => (h cs hline).map rfl fun _ => rfl

/-- One reader after the other. -/
theorem bind {next : α → List Char → Option (β × List Char)} (h : StaysOnLine reader)
    (hnext : ∀ a, StaysOnLine (next a)) :
    StaysOnLine fun cs => (reader cs).bind fun read => next read.1 read.2 := by
  intro cs hline b rest hb
  obtain ⟨⟨a, middle⟩, ha, hb⟩ := Option.bind_eq_some_iff.mp hb
  obtain ⟨hmiddle, hmore⟩ := h cs hline a middle ha
  obtain ⟨hrest, hmore'⟩ := hnext a middle hmiddle b rest hb
  exact ⟨hrest, fun more => by simp only [hmore, Option.bind_some, hmore']⟩

theorem afterBlanks (h : StaysOnLine reader) : StaysOnLine fun cs => reader (skipBlanks cs) :=
  fun _ hline => (h _ hline.skipBlanks).same rfl fun _ => by rw [skipBlanks_newline]

/-- A reader that chooses by its first character stays on the line if both of its choices do. -/
theorem branch {next other : List Char → Option (α × List Char)} {c : Char} (hc : c ≠ '\n')
    (hnext : StaysOnLine next) (hother : StaysOnLine other) :
    StaysOnLine (Toml.branch c next other) := by
  intro cs hline
  by_cases hcs : ∃ rest, cs = c :: rest
  · obtain ⟨rest, rfl⟩ := hcs
    exact (hnext rest hline.tail).same (branch_cons rest) fun _ => branch_cons _
  · have hcs : ∀ rest, cs = c :: rest → False := fun rest heq => hcs ⟨rest, heq⟩
    have hp : '\n' ∉ [c] := fun h => hc (List.mem_singleton.mp h).symm
    exact (hother cs hline).same (branch_of_ne hcs) fun more =>
      branch_of_ne fun rest => not_append_of_not hp hcs more rest

/-- More lines make a text longer, so there is more fuel, which makes no difference. -/
theorem ofLength {reader : Nat → List Char → Option (α × List Char)}
    (h : ∀ fuel, StaysOnLine (reader fuel))
    (hmono : ∀ fuel fuel' cs read, fuel ≤ fuel' → reader fuel cs = some read →
      reader fuel' cs = some read) :
    StaysOnLine fun cs => reader (cs.length + 1) cs := by
  intro cs hline a rest hread
  obtain ⟨hrest, hmore⟩ := h _ cs hline a rest hread
  exact ⟨hrest, fun more => hmono _ _ _ _ (by simp) (hmore more)⟩

end StaysOnLine

end Readers

/-! ## Strings -/

theorem staysOnLine_basic : StaysOnLine basic? := by
  intro cs hline
  -- The cases are the end of the text, the closing quote, the three kinds of escapes, and a
  -- character that stands for itself or may not stand there.
  fun_induction basic? cs with
  | case1 => exact .of_none rfl
  | case2 rest => exact .of_some hline.tail rfl fun _ => rfl
  | case3 a b c d rest ih =>
    cases hx : scalar? [a, b, c, d] with
    | none => exact .of_none (by simp [basic?, hx])
    | some x =>
      have hread : ∀ rest, basic? ('\\' :: 'u' :: a :: b :: c :: d :: rest) =
          consChar x (basic? rest) := by simp [basic?, hx]
      exact (ih (hline.drop 6)).map (hread rest) fun _ => hread _
  | case4 a b c d e f g h rest ih =>
    cases hx : scalar? [a, b, c, d, e, f, g, h] with
    | none => exact .of_none (by simp [basic?, hx])
    | some x =>
      have hread : ∀ rest, basic? ('\\' :: 'U' :: a :: b :: c :: d :: e :: f :: g :: h :: rest) =
          consChar x (basic? rest) := by simp [basic?, hx]
      exact (ih (hline.drop 10)).map (hread rest) fun _ => hread _
  | case5 e rest _ _ ih =>
    cases hx : escape? e with
    | none => exact .of_none (by simp [basic?, hx])
    | some x =>
      have hshort : e ≠ 'u' := by rintro rfl; simp [escape?] at hx
      have hlong : e ≠ 'U' := by rintro rfl; simp [escape?] at hx
      have hread : ∀ rest, basic? ('\\' :: e :: rest) = consChar x (basic? rest) := by
        simp [basic?, hx, hshort, hlong]
      exact (ih hline.tail.tail).map (hread rest) fun _ => hread _
  | case6 c rest _ _ _ _ hplain ih =>
    have hread : ∀ rest, basic? (c :: rest) = consChar c (basic? rest) := by
      simp [basic?, hplain.1, hplain.2]
    exact (ih hline.tail).map (hread rest) fun _ => hread _
  | case7 c rest _ _ _ _ hplain => exact .of_none (by simp [basic?, hplain])

theorem staysOnLine_literal : StaysOnLine literal? := by
  intro cs hline
  fun_induction literal? cs with
  | case1 => exact .of_none rfl
  | case2 rest => exact .of_some hline.tail rfl fun _ => rfl
  | case3 c rest _ hplain ih =>
    have hread : ∀ rest, literal? (c :: rest) = consChar c (literal? rest) := by
      simp [literal?, hplain]
    exact (ih hline.tail).map (hread rest) fun _ => hread _
  | case4 c rest _ hplain => exact .of_none (by simp [literal?, hplain])

/-- A character that may be escaped is no blank, and it does not end a line. -/
theorem isLineRest_of_escape {e x : Char} (he : escape? e = some x) (rest : List Char) :
    isLineRest (e :: rest) = false := by
  unfold escape? at he
  split at he
  all_goals first | rfl | exact absurd he nofun

/-- Inside a string of several lines, a character that stands for itself if it is plain. -/
theorem lines?_of_ordinary {c : Char} (hquote : c ≠ '"') (hslash : c ≠ '\\') (hnewline : c ≠ '\n')
    (hreturn : c ≠ '\r') (joining : Bool) (rest : List Char) : lines? joining (c :: rest) =
      if joining ∧ isBlank c then lines? true rest
      else if isPlain c ∧ c ≠ '\\' then consChar c (lines? false rest) else none := by
  rw [lines?]
  all_goals simp_all

theorem staysOnLine_lines (joining : Bool) : StaysOnLine (lines? joining) := by
  intro cs hline
  fun_induction lines? joining cs with
  | case1 => exact .of_none (by rw [lines?])
  -- Three quotes close the string; up to two more in front of them belong to it.
  | case2 joining rest =>
    refine .of_some (hline.drop 5) (by rw [lines?]; rfl) fun more => ?_
    show lines? joining ('"' :: '"' :: '"' :: '"' :: '"' :: (rest ++ '\n' :: more)) = _
    rw [lines?]
    rfl
  | case3 joining rest h₁ =>
    refine .of_some (a := ['"']) (hline.drop 4) (by rw [lines?]; exacts [rfl, h₁]) fun more => ?_
    show lines? joining ('"' :: '"' :: '"' :: '"' :: (rest ++ '\n' :: more)) = _
    rw [lines?]
    · rfl
    · exact not_append_of_not (p := ['"']) (by decide) h₁ more
  | case4 joining rest h₁ h₂ =>
    refine .of_some (a := []) (hline.drop 3) (by rw [lines?]; exacts [rfl, h₁, h₂]) fun more => ?_
    show lines? joining ('"' :: '"' :: '"' :: (rest ++ '\n' :: more)) = _
    rw [lines?]
    · rfl
    · exact not_append_of_not (p := ['"', '"']) (by decide) h₁ more
    · exact not_append_of_not (p := ['"']) (by decide) h₂ more
  | case5 joining rest h₁ h₂ h₃ ih =>
    refine (ih hline.tail).map (f := ('"' :: ·)) (by rw [lines?]; exacts [rfl, h₁, h₂, h₃])
      fun more => ?_
    show lines? joining ('"' :: (rest ++ '\n' :: more)) = _
    rw [lines?]
    · rfl
    · exact not_append_of_not (p := ['"', '"', '"', '"']) (by decide) h₁ more
    · exact not_append_of_not (p := ['"', '"', '"']) (by decide) h₂ more
    · exact not_append_of_not (p := ['"', '"']) (by decide) h₃ more
  | case6 | case7 => exact absurd rfl (hline '\n' (by simp)).1
  | case8 | case9 => exact absurd rfl (hline '\r' (by simp)).2
  | case10 joining a b c d rest ih =>
    cases hx : scalar? [a, b, c, d] with
    | none => exact .of_none (by simp [lines?, hx])
    | some x =>
      have hread : ∀ rest, lines? joining ('\\' :: 'u' :: a :: b :: c :: d :: rest) =
          consChar x (lines? false rest) := by simp [lines?, hx]
      exact (ih (hline.drop 6)).map (hread rest) fun _ => hread _
  | case11 joining a b c d e f g h rest ih =>
    cases hx : scalar? [a, b, c, d, e, f, g, h] with
    | none => exact .of_none (by simp [lines?, hx])
    | some x =>
      have hread : ∀ rest, lines? joining ('\\' :: 'U' :: a :: b :: c :: d :: e :: f :: g :: h ::
          rest) = consChar x (lines? false rest) := by simp [lines?, hx]
      exact (ih (hline.drop 10)).map (hread rest) fun _ => hread _
  | case12 joining e rest _ _ hrest =>
    rw [isLineRest, hline.tail.skipBlanks.lineEnd?_eq] at hrest
    exact absurd hrest nofun
  | case13 joining e rest _ _ hrest ih =>
    cases hx : escape? e with
    | none => exact .of_none (by simp [lines?, hx, hrest])
    | some x =>
      have hshort : e ≠ 'u' := by rintro rfl; simp [escape?] at hx
      have hlong : e ≠ 'U' := by rintro rfl; simp [escape?] at hx
      have hread : ∀ rest, lines? joining ('\\' :: e :: rest) = consChar x (lines? false rest) := by
        simp [lines?, hshort, hlong, isLineRest_of_escape hx, hx]
      exact (ih hline.tail.tail).map (hread rest) fun _ => hread _
  | case14 joining c rest _ _ _ hquote hnewline _ _ _ _ hblank ih =>
    have hslash : c ≠ '\\' := by rintro rfl; simp [isBlank] at hblank
    have hread : ∀ rest, lines? joining (c :: rest) = lines? true rest := fun rest => by
      rw [lines?_of_ordinary hquote hslash hnewline (hline c (by simp)).2, if_pos hblank]
    exact (ih hline.tail).same (hread rest) fun _ => hread _
  | case15 joining c rest _ _ _ hquote hnewline _ _ _ _ hblank hplain ih =>
    have hread : ∀ rest, lines? joining (c :: rest) = consChar c (lines? false rest) := fun rest => by
      rw [lines?_of_ordinary hquote hplain.2 hnewline (hline c (by simp)).2, if_neg hblank,
        if_pos hplain]
    exact (ih hline.tail).map (hread rest) fun _ => hread _
  | case16 joining c rest _ _ _ _ _ _ _ _ _ hblank hplain =>
    refine .of_none ?_
    rw [lines?, if_neg hblank, if_neg hplain]
    all_goals assumption

theorem staysOnLine_literalLines : StaysOnLine literalLines? := by
  intro cs hline
  fun_induction literalLines? cs with
  | case1 => exact .of_none rfl
  | case2 rest => exact .of_some (hline.drop 5) rfl fun _ => rfl
  | case3 rest h₁ =>
    refine .of_some (a := ['\'']) (hline.drop 4) (by rw [literalLines?]; exacts [rfl, h₁])
      fun more => ?_
    show literalLines? ('\'' :: '\'' :: '\'' :: '\'' :: (rest ++ '\n' :: more)) = _
    rw [literalLines?]
    · rfl
    · exact not_append_of_not (p := ['\'']) (by decide) h₁ more
  | case4 rest h₁ h₂ =>
    refine .of_some (a := []) (hline.drop 3) (by rw [literalLines?]; exacts [rfl, h₁, h₂])
      fun more => ?_
    show literalLines? ('\'' :: '\'' :: '\'' :: (rest ++ '\n' :: more)) = _
    rw [literalLines?]
    · rfl
    · exact not_append_of_not (p := ['\'', '\'']) (by decide) h₁ more
    · exact not_append_of_not (p := ['\'']) (by decide) h₂ more
  | case5 => exact absurd rfl (hline '\n' (by simp)).1
  | case6 => exact absurd rfl (hline '\r' (by simp)).2
  | case7 c rest h₁ h₂ h₃ hnewline hreturn hplain ih =>
    refine (ih hline.tail).map (f := (c :: ·)) ?_ fun more => ?_
    · rw [literalLines?, if_pos hplain]
      · rfl
      all_goals assumption
    · show literalLines? (c :: (rest ++ '\n' :: more)) = _
      rw [literalLines?, if_pos hplain]
      · rfl
      · exact fun cs hc =>
          not_append_of_not (p := ['\'', '\'', '\'', '\'']) (by decide) (h₁ · hc) more cs
      · exact fun cs hc =>
          not_append_of_not (p := ['\'', '\'', '\'']) (by decide) (h₂ · hc) more cs
      · exact fun cs hc => not_append_of_not (p := ['\'', '\'']) (by decide) (h₃ · hc) more cs
      · exact hnewline
      · exact fun cs hc => absurd hc (hline c (by simp)).2
  | case8 c rest _ _ _ _ _ hplain =>
    refine .of_none ?_
    rw [literalLines?, if_neg hplain]
    all_goals assumption

theorem staysOnLine_shortString : StaysOnLine shortString? := by
  intro cs hline
  fun_cases shortString? cs with
  | case1 rest => exact (staysOnLine_basic rest hline.tail).same rfl fun _ => rfl
  | case2 rest => exact (staysOnLine_literal rest hline.tail).same rfl fun _ => rfl
  | case3 => exact .of_none (by rw [shortString?]; all_goals assumption)

/-- Behind three quotes the end of a line is left out, but then the string ends on another line. -/
theorem StaysOnLine.skipLineEnd {α : Type} {reader : List Char → Option (α × List Char)}
    (h : StaysOnLine reader) (hnil : reader [] = Option.none) :
    StaysOnLine fun cs => reader (skipLineEnd cs) := by
  intro cs hline
  have hsame : Toml.skipLineEnd cs = cs := by
    rw [Toml.skipLineEnd, hline.lineEnd?_eq]
    rfl
  cases cs with
  | nil => exact .of_none hnil
  | cons c cs =>
    refine (h _ hline).same (congrArg reader hsame) fun more => congrArg reader ?_
    rw [Toml.skipLineEnd, List.cons_append, hline.lineEnd?_append]
    rfl

theorem staysOnLine_string : StaysOnLine string? := by
  intro cs hline
  fun_cases string? cs with
  | case1 rest =>
    have hlines := (staysOnLine_lines false).skipLineEnd (by rw [lines?])
    exact (hlines rest (hline.drop 3)).same (by rw [string?]) fun _ => by
      rw [List.cons_append, List.cons_append, List.cons_append, string?]
  | case2 rest =>
    have hlines := staysOnLine_literalLines.skipLineEnd rfl
    exact (hlines rest (hline.drop 3)).same (by rw [string?]) fun _ => by
      rw [List.cons_append, List.cons_append, List.cons_append, string?]
  | case3 _ h₁ h₂ =>
    refine (staysOnLine_shortString cs hline).same ?_ fun more => ?_
    · rw [string?]
      · exact h₁
      · exact h₂
    · rw [string?]
      · exact not_append_of_not (p := ['"', '"', '"']) (by decide) h₁ more
      · exact not_append_of_not (p := ['\'', '\'', '\'']) (by decide) h₂ more

/-! ## Keys and words -/

theorem staysOnLine_keyPart : StaysOnLine keyPart? := by
  intro cs hline
  cases hshort : shortString? cs with
  | some read =>
    obtain ⟨s, rest⟩ := read
    obtain ⟨hrest, hmore⟩ := staysOnLine_shortString cs hline s rest hshort
    exact .of_some hrest (by rw [keyPart?, hshort]) fun _ => by rw [keyPart?, hmore]
  | none =>
    by_cases hpart : cs.takeWhile isKeyChar = []
    · exact .of_none (by rw [keyPart?, hshort]; exact if_pos hpart)
    · have hread : ∀ cs', shortString? cs' = none →
          cs'.takeWhile isKeyChar = cs.takeWhile isKeyChar → keyPart? cs' =
            some (String.ofList (cs.takeWhile isKeyChar), cs'.dropWhile isKeyChar) := by
        intro cs' hshort hsame
        rw [keyPart?, hshort]
        simp only [hsame, if_neg hpart]
      refine .of_some (hline.dropWhile isKeyChar) (hread cs hshort rfl) fun more => ?_
      rw [hread (cs ++ '\n' :: more) _ (takeWhile_newline (by decide) cs more),
        dropWhile_newline (by decide)]
      -- A bare key does not begin with a quote.
      cases cs with
      | nil => exact absurd rfl hpart
      | cons c cs =>
        rw [List.cons_append, shortString?]
        · intro _ heq
          rw [(List.cons.inj heq).1] at hpart
          exact absurd rfl hpart
        · intro _ heq
          rw [(List.cons.inj heq).1] at hpart
          exact absurd rfl hpart

/-- Behind a part of a key stands a dot, or the key has ended. -/
theorem keyParts?_succ (fuel : Nat) (cs : List Char) : keyParts? (fuel + 1) cs =
    (keyPart? (skipBlanks cs)).bind fun part => branch '.'
      (fun more => (keyParts? fuel more).bind fun parts => some (part.1 :: parts.1, parts.2))
      (fun rest => some ([part.1], rest)) (skipBlanks part.2) := by
  rw [keyParts?, Option.bind_eq_bind]
  refine congrArg _ (funext fun part => ?_)
  dsimp only
  split
  · rename_i hdot
    rw [hdot, branch_cons]
    rfl
  · rename_i hend
    rw [branch_of_ne hend]

theorem staysOnLine_keyParts (fuel : Nat) : StaysOnLine (keyParts? fuel) := by
  induction fuel with
  | zero => exact .none
  | succ fuel ih =>
    have hdot := fun part : String => StaysOnLine.branch (c := '.') (by decide)
      (ih.bind fun parts => .pure (part :: parts)) (.pure [part])
    exact (staysOnLine_keyPart.afterBlanks.bind fun part => (hdot part).afterBlanks).congr
      (keyParts?_succ fuel)

/-- A date takes no time of day from the next line. -/
theorem word_newline (cs more : List Char) :
    word (cs ++ '\n' :: more) = ((word cs).1, (word cs).2 ++ '\n' :: more) := by
  have htake := takeWhile_newline (p := isWordChar) (by decide)
  have hdrop := dropWhile_newline (p := isWordChar) (by decide)
  rw [word, word, htake, hdrop]
  match cs.dropWhile isWordChar with
  | [] => rfl
  | [c] =>
    by_cases hc : c = ' '
    · subst hc
      have hdigit : ¬ (isDate (cs.takeWhile isWordChar) = true ∧ '\n'.isDigit = true) :=
        fun h => absurd h.2 (by decide)
      simp only [List.cons_append, List.nil_append, if_neg hdigit]
    · simp [hc]
  | c :: d :: rest =>
    by_cases hc : c = ' '
    · subst hc
      have htime := htake (d :: rest) more
      have hbehind := hdrop (d :: rest) more
      rw [List.cons_append] at htime hbehind
      simp only [List.cons_append, htime, hbehind]
      split
      · rfl
      · rfl
    · simp [hc]

theorem IsOneLine.word {cs : List Char} (hline : IsOneLine cs) : IsOneLine (word cs).2 := by
  have hback : IsOneLine (cs.dropWhile isWordChar) := hline.dropWhile isWordChar
  rw [Toml.word]
  split
  · rename_i c rest hcs
    rw [hcs] at hback
    split
    · exact hback.tail.dropWhile isWordChar
    · exact hback
  · exact hback

/-! ## Lists and inline tables -/

theorem skipComment?_cons {c : Char} (hc : c ≠ '#') (rest : List Char) :
    skipComment? (c :: rest) = some (c :: rest) := by
  rw [skipComment?]
  exact fun _ heq => hc (List.cons.inj heq).1

/-- Only blanks are skipped on a line of which something is left: a comment leaves nothing. -/
theorem skipBlanks_of_skipLines? {fuel : Nat} {cs : List Char} {c : Char} {rest : List Char}
    (hline : IsOneLine cs) (hskip : skipLines? fuel cs = some (c :: rest)) :
    skipBlanks cs = c :: rest ∧ c ≠ '#' := by
  cases fuel with
  | zero => exact absurd hskip nofun
  | succ fuel =>
    obtain ⟨behind, hcomment, hskip⟩ := Option.bind_eq_some_iff.mp hskip
    have hblanks := hline.skipBlanks
    unfold skipComment? at hcomment
    split at hcomment
    · rename_i more hcs
      rw [hcs] at hblanks
      have hend := (hblanks.tail.dropWhile isPlain).lineEnd?_eq
      simp only [hend, Option.isSome_none, Bool.false_eq_true, or_false] at hcomment
      split at hcomment
      · rename_i hempty
        obtain rfl := Option.some.inj hcomment
        rw [hempty] at hskip
        exact absurd hskip nofun
      · exact absurd hcomment nofun
    · rename_i hhash
      obtain rfl := Option.some.inj hcomment
      rw [hblanks.lineEnd?_eq] at hskip
      obtain hskip := Option.some.inj hskip
      refine ⟨hskip, ?_⟩
      rintro rfl
      exact hhash rest hskip

/-- A reader of something that does not begin at the end of a line. -/
theorem StaysOnLine.afterLines {α : Type} {reader : List Char → Option (α × List Char)}
    (h : StaysOnLine reader) (hnil : reader [] = Option.none) :
    StaysOnLine fun cs => (skipLines? (cs.length + 1) cs).bind reader := by
  intro cs hline a rest hread
  obtain ⟨behind, hskip, hread⟩ := Option.bind_eq_some_iff.mp hread
  cases behind with
  | nil => exact absurd (hnil.symm.trans hread) nofun
  | cons c behind =>
    obtain ⟨hblanks, hc⟩ := skipBlanks_of_skipLines? hline hskip
    have hbehind : IsOneLine (c :: behind) := hblanks ▸ hline.skipBlanks
    obtain ⟨hrest, hmore⟩ := h _ hbehind a rest hread
    refine ⟨hrest, fun more => ?_⟩
    have hskip' : skipLines? ((cs ++ '\n' :: more).length + 1) (cs ++ '\n' :: more) =
        some (c :: (behind ++ '\n' :: more)) := by
      rw [skipLines?, skipBlanks_newline, hblanks, List.cons_append, skipComment?_cons hc]
      simp only [Option.bind_eq_bind, Option.bind_some, hbehind.lineEnd?_append]
    dsimp only
    rw [hskip', Option.bind_some]
    exact hmore more

section Nested

variable {item? : Reader Value}

/-- A list ends, or has an item with a comma or the end of the list behind it. -/
theorem items?_succ (fuel : Nat) (cs : List Char) : items? item? (fuel + 1) cs =
    (skipLines? (cs.length + 1) cs).bind (branch ']' (fun rest => some ([], rest)) fun cs =>
      (item? cs).bind fun item => (skipLines? (item.2.length + 1) item.2).bind (branch ','
        (fun more => (items? item? fuel more).bind fun items => some (item.1 :: items.1, items.2))
        (branch ']' (fun more => some ([item.1], more)) fun _ => none))) := by
  rw [items?, Option.bind_eq_bind]
  refine congrArg _ (funext fun cs => ?_)
  split
  · rw [branch_cons]
  · rename_i hitem
    rw [branch_of_ne hitem, Option.bind_eq_bind]
    refine congrArg _ (funext fun item => ?_)
    dsimp only
    rw [Option.bind_eq_bind]
    refine congrArg _ (funext fun behind => ?_)
    split
    · rw [branch_cons]
    · rw [branch_of_ne (by simp), branch_cons]
    · rename_i hcomma hend
      rw [branch_of_ne hcomma, branch_of_ne hend]

/-- The elements of a list are read on one line, if each of them is. -/
theorem staysOnLine_items (hitem : StaysOnLine item?) (hnil : item? [] = none) (fuel : Nat) :
    StaysOnLine (items? item? fuel) := by
  induction fuel with
  | zero => exact .none
  | succ fuel ih =>
    have hclose := fun v : Value => StaysOnLine.branch (c := ']') (by decide) (.pure [v]) .none
    have hbehind := fun v : Value => StaysOnLine.branch (c := ',') (by decide)
      (ih.bind fun vs => .pure (v :: vs)) (hclose v)
    have hfirst := StaysOnLine.branch (c := ']') (by decide) (.pure [])
      (hitem.bind fun v => (hbehind v).afterLines rfl)
    refine (hfirst.afterLines ?_).congr (items?_succ fuel)
    rw [branch_of_ne (by simp), hnil]
    rfl

/-- More fuel reads the same list. -/
theorem items?_mono {fuel fuel' : Nat} (hle : fuel ≤ fuel') {cs : List Char}
    {read : List Value × List Char} (hread : items? item? fuel cs = some read) :
    items? item? fuel' cs = some read := by
  induction fuel generalizing fuel' cs read with
  | zero => exact absurd hread nofun
  | succ fuel ih =>
    obtain ⟨fuel', rfl⟩ : ∃ n, fuel' = n + 1 := ⟨fuel' - 1, by omega⟩
    rw [items?, Option.bind_eq_bind, Option.bind_eq_some_iff] at hread ⊢
    obtain ⟨cs', hcs', hread⟩ := hread
    refine ⟨cs', hcs', ?_⟩
    split at hread
    · exact hread
    · obtain ⟨item, hitem, hread⟩ := Option.bind_eq_some_iff.mp hread
      refine Option.bind_eq_some_iff.mpr ⟨item, hitem, ?_⟩
      obtain ⟨behind, hbehind, hread⟩ := Option.bind_eq_some_iff.mp hread
      refine Option.bind_eq_some_iff.mpr ⟨behind, hbehind, ?_⟩
      split at hread
      · obtain ⟨vs, hvs, hread⟩ := Option.bind_eq_some_iff.mp hread
        exact Option.bind_eq_some_iff.mpr ⟨vs, ih (Nat.le_of_succ_le_succ hle) hvs, hread⟩
      · exact hread
      · exact absurd hread nofun

/-- Behind a key stands an equals sign. -/
theorem pair?_eq (cs : List Char) : pair? item? cs =
    (key? cs).bind fun key => branch '='
      (fun rest => (item? (skipBlanks rest)).bind fun item => some ((key.1, item.1), item.2))
      (fun _ => none) key.2 := by
  rw [pair?, Option.bind_eq_bind]
  refine congrArg _ (funext fun key => ?_)
  dsimp only
  split
  · rename_i hequals
    rw [hequals, branch_cons]
    rfl
  · rename_i hother
    rw [branch_of_ne hother]

theorem staysOnLine_pair (hitem : StaysOnLine item?) : StaysOnLine (pair? item?) := by
  have hvalue := fun key : List String => StaysOnLine.branch (c := '=') (by decide)
    (hitem.afterBlanks.bind fun v => .pure (key, v)) .none
  exact ((staysOnLine_keyParts maxKeyParts).bind hvalue).congr pair?_eq

/-- Behind a key with its value stands a comma or the end of the table. -/
theorem pairs?_succ (fuel : Nat) (fields : Fields) (cs : List Char) :
    pairs? item? (fuel + 1) fields cs = (pair? item? cs).bind fun pair =>
      (addPair fields pair.1.1 pair.1.2).bind fun fields => branch ','
        (pairs? item? fuel fields)
        (branch '\x7d' (fun more => some (fields, more)) fun _ => none) (skipBlanks pair.2) := by
  rw [pairs?, Option.bind_eq_bind]
  refine congrArg _ (funext fun pair => ?_)
  dsimp only
  rw [Option.bind_eq_bind]
  refine congrArg _ (funext fun fields => ?_)
  split
  · rename_i hcomma
    rw [hcomma, branch_cons]
  · rename_i hend
    rw [hend, branch_of_ne (by simp), branch_cons]
  · rename_i hcomma hend
    rw [branch_of_ne hcomma, branch_of_ne hend]

/-- The pairs of an inner table are read on one line, if each value is. -/
theorem staysOnLine_pairs (hitem : StaysOnLine item?) (fuel : Nat) (fields : Fields) :
    StaysOnLine (pairs? item? fuel fields) := by
  induction fuel generalizing fields with
  | zero => exact .none
  | succ fuel ih =>
    have hclose := fun fields : Fields =>
      StaysOnLine.branch (c := '\x7d') (by decide) (.pure fields) .none
    have hbehind := fun fields : Fields =>
      StaysOnLine.branch (c := ',') (by decide) (ih fields) (hclose fields)
    have hadd : ∀ pair : List String × Value, StaysOnLine fun cs =>
        (addPair fields pair.1 pair.2).bind fun fields => branch ',' (pairs? item? fuel fields)
          (branch '\x7d' (fun more => some (fields, more)) fun _ => none) (skipBlanks cs) := by
      intro pair
      cases addPair fields pair.1 pair.2 with
      | none => exact .none
      | some fields => exact (hbehind fields).afterBlanks
    exact ((staysOnLine_pair hitem).bind hadd).congr (pairs?_succ fuel fields)

/-- More fuel reads the same pairs. -/
theorem pairs?_mono {fuel fuel' : Nat} {fields : Fields} {cs : List Char} {read : Fields × List Char}
    (hle : fuel ≤ fuel') (hread : pairs? item? fuel fields cs = some read) :
    pairs? item? fuel' fields cs = some read := by
  induction fuel generalizing fuel' fields cs read with
  | zero => exact absurd hread nofun
  | succ fuel ih =>
    obtain ⟨fuel', rfl⟩ : ∃ n, fuel' = n + 1 := ⟨fuel' - 1, by omega⟩
    rw [pairs?, Option.bind_eq_bind, Option.bind_eq_some_iff] at hread ⊢
    obtain ⟨pair, hpair, hread⟩ := hread
    refine ⟨pair, hpair, ?_⟩
    obtain ⟨fields, hfields, hread⟩ := Option.bind_eq_some_iff.mp hread
    refine Option.bind_eq_some_iff.mpr ⟨fields, hfields, ?_⟩
    split at hread
    · exact ih (Nat.le_of_succ_le_succ hle) hread
    · exact hread
    · exact absurd hread nofun

end Nested

/-! ## Values -/

/-- Reads a list, from behind its opening bracket on. -/
def listBody? (item? : Reader Value) : Reader Value := fun rest =>
  (items? item? (rest.length + 1) rest).bind fun items => some (.list items.1, items.2)

/-- Reads an inline table, from behind its opening brace on. -/
def tableBody? (item? : Reader Value) : Reader Value := fun rest =>
  branch '\x7d' (fun rest => some (.table [], rest))
    (fun rest => (pairs? item? (rest.length + 1) [] rest).bind fun fields =>
      some (.table (fieldValues fields.1), fields.2)) (skipBlanks rest)

/-- An opening bracket begins a list. -/
theorem itemWith?_bracket (nested? : Option (Reader Value)) (rest : List Char) :
    itemWith? nested? ('[' :: rest) = nested?.bind (listBody? · rest) := rfl

/-- An opening brace begins a table. -/
theorem itemWith?_brace (nested? : Option (Reader Value)) (rest : List Char) :
    itemWith? nested? ('\x7b' :: rest) = nested?.bind (tableBody? · rest) := by
  rw [itemWith?, Option.bind_eq_bind]
  refine congrArg _ (funext fun item? => ?_)
  rw [tableBody?]
  split
  · rename_i hend
    rw [hend, branch_cons]
  · rename_i hkey
    rw [branch_of_ne hkey]
    rfl

theorem staysOnLine_listBody {item? : Reader Value} (hitem : StaysOnLine item?)
    (hnil : item? [] = none) : StaysOnLine (listBody? item?) :=
  (StaysOnLine.ofLength (staysOnLine_items hitem hnil)
    fun _ _ _ _ hle => items?_mono hle).bind fun vs => .pure (Value.list vs)

theorem staysOnLine_tableBody {item? : Reader Value} (hitem : StaysOnLine item?) :
    StaysOnLine (tableBody? item?) := by
  have hpairs := StaysOnLine.ofLength (staysOnLine_pairs hitem · [])
    fun _ _ _ _ hle => pairs?_mono hle
  have hfields := StaysOnLine.branch (c := '\x7d') (by decide) (.pure (Value.table []))
    (hpairs.bind fun fields => .pure (Value.table (fieldValues fields)))
  exact hfields.afterBlanks

theorem staysOnLine_ofWord : StaysOnLine fun cs => (ofWord? (word cs).1).map (·, (word cs).2) := by
  intro cs hline
  cases hv : ofWord? (word cs).1 with
  | none => exact .of_none (by rw [hv]; rfl)
  | some v =>
    refine .of_some (a := v) hline.word (by rw [hv]; rfl) fun more => ?_
    simp only [word_newline, hv, Option.map_some]

/-- A value of any kind, with the values inside it read by a reader that stays on its line. -/
theorem staysOnLine_itemWith {nested? : Option (Reader Value)}
    (h : ∀ item? ∈ nested?, StaysOnLine item? ∧ item? [] = none) :
    StaysOnLine (itemWith? nested?) := by
  have hstring := staysOnLine_string.map fun s => Value.text (String.ofList s)
  have hlist : StaysOnLine fun rest => nested?.bind (listBody? · rest) := by
    cases nested? with
    | none => exact .none
    | some item? => exact staysOnLine_listBody (h item? rfl).1 (h item? rfl).2
  have htable : StaysOnLine fun rest => nested?.bind (tableBody? · rest) := by
    cases nested? with
    | none => exact .none
    | some item? => exact staysOnLine_tableBody (h item? rfl).1
  -- The first character decides which of the readers goes on.
  intro cs hline
  cases cs with
  | nil => exact .of_none rfl
  | cons c rest =>
    by_cases hquote : c = '"'
    · subst hquote
      exact (hstring _ hline).same rfl fun _ => rfl
    by_cases hmark : c = '\''
    · subst hmark
      exact (hstring _ hline).same rfl fun _ => rfl
    by_cases hbracket : c = '['
    · subst hbracket
      exact (hlist rest hline.tail).same (itemWith?_bracket nested? rest) fun _ =>
        itemWith?_bracket nested? _
    by_cases hbrace : c = '\x7b'
    · subst hbrace
      exact (htable rest hline.tail).same (itemWith?_brace nested? rest) fun _ =>
        itemWith?_brace nested? _
    have hread : ∀ rest, itemWith? nested? (c :: rest) =
        (ofWord? (word (c :: rest)).1).map (·, (word (c :: rest)).2) := by
      intro rest
      rw [itemWith?]
      · exact fun _ heq => hquote (List.cons.inj heq).1
      · exact fun _ heq => hmark (List.cons.inj heq).1
      · exact fun _ heq => hbracket (List.cons.inj heq).1
      · exact fun _ heq => hbrace (List.cons.inj heq).1
    exact (staysOnLine_ofWord _ hline).same (hread rest) fun _ => hread _

/-- Values are read on one line, at any depth. -/
theorem staysOnLine_item (depth : Nat) : StaysOnLine (item? depth) := by
  induction depth with
  | zero => exact staysOnLine_itemWith nofun
  | succ depth ih =>
    refine staysOnLine_itemWith fun item? hitem => ?_
    obtain rfl := Option.some.inj hitem
    cases depth with
    | zero => exact ⟨ih, rfl⟩
    | succ depth => exact ⟨ih, rfl⟩

/-! ## Statements -/

/-- A line that begins with a key is a pair. -/
theorem statement?_of_key {cs : List Char} {c : Char} {rest : List Char}
    (hskip : skipBlanks cs = c :: rest) (hbracket : c ≠ '[') (hhash : c ≠ '#')
    (hend : lineEnd? (c :: rest) = none) : statement? cs =
      (pair? (item? maxNesting) (c :: rest)).map fun read =>
        (some (.pair read.1.1 read.1.2), read.2) := by
  have hkey : ¬ (c :: rest = [] ∨ (c :: rest).head? = some '#' ∨
      (lineEnd? (c :: rest)).isSome = true) := by
    simp [hhash, hend]
  rw [statement?, hskip]
  split
  · rename_i heq
    exact absurd (List.cons.inj heq).1 hbracket
  · rename_i heq
    exact absurd (List.cons.inj heq).1 hbracket
  · rw [if_neg hkey]

/-- A line that gives a key a value begins with the key. -/
theorem exists_of_statement?_pair {cs : List Char} {key : List String} {v : Value}
    {rest : List Char} (hread : statement? cs = some (some (.pair key v), rest)) :
    ∃ c body, skipBlanks cs = c :: body ∧ c ≠ '[' ∧ c ≠ '#' := by
  unfold statement? at hread
  split at hread
  · obtain ⟨⟨path, behind⟩, -, hread⟩ := Option.bind_eq_some_iff.mp hread
    dsimp only at hread
    split at hread
    · exact absurd hread nofun
    · exact absurd hread nofun
  · obtain ⟨⟨path, behind⟩, -, hread⟩ := Option.bind_eq_some_iff.mp hread
    dsimp only at hread
    split at hread
    · exact absurd hread nofun
    · exact absurd hread nofun
  · rename_i hlist hheader
    split at hread
    · exact absurd hread nofun
    · rename_i hkey
      obtain ⟨hne, hother⟩ := not_or.mp hkey
      obtain ⟨hhash, -⟩ := not_or.mp hother
      obtain ⟨c, body, hskip⟩ := List.exists_cons_of_ne_nil hne
      rw [hskip] at hhash hheader
      refine ⟨c, body, hskip, ?_, fun hc => hhash (congrArg some hc)⟩
      rintro rfl
      exact hheader body rfl

/-- A key with its value is read the same way whatever follows the line. -/
theorem statement?_append {cs : List Char} (hline : IsOneLine cs) {key : List String} {v : Value}
    {rest : List Char} (hread : statement? cs = some (some (.pair key v), rest))
    (more : List Char) :
    statement? (cs ++ '\n' :: more) = some (some (.pair key v), rest ++ '\n' :: more) := by
  obtain ⟨c, body, hskip, hbracket, hhash⟩ := exists_of_statement?_pair hread
  have hbody : IsOneLine (c :: body) := hskip ▸ hline.skipBlanks
  rw [statement?_of_key hskip hbracket hhash hbody.lineEnd?_eq] at hread
  have hstays := (staysOnLine_pair (staysOnLine_item maxNesting)).map
    fun pair => some (Statement.pair pair.1 pair.2)
  obtain ⟨-, hmore⟩ := hstays _ hbody _ _ hread
  have hskip' : skipBlanks (cs ++ '\n' :: more) = c :: (body ++ '\n' :: more) := by
    rw [skipBlanks_newline, hskip, List.cons_append]
  rw [statement?_of_key hskip' hbracket hhash (hbody.lineEnd?_append more)]
  exact hmore more

/-- What is left of a line is skipped up to its end. -/
theorem skipComment?_append {cs : List Char} (hskip : skipComment? (skipBlanks cs) = some [])
    (more : List Char) :
    skipComment? (skipBlanks (cs ++ '\n' :: more)) = some ('\n' :: more) := by
  rw [skipBlanks_newline]
  cases hcs : skipBlanks cs with
  | nil => rfl
  | cons c rest =>
    rw [hcs] at hskip
    by_cases hc : c = '#'
    · subst hc
      have hplain : rest.dropWhile isPlain = [] := by
        rw [skipComment?] at hskip
        split at hskip
        · exact Option.some.inj hskip
        · exact absurd hskip nofun
      have hend : (lineEnd? ('\n' :: more)).isSome = true := rfl
      rw [List.cons_append, skipComment?]
      simp only [dropWhile_newline (p := isPlain) (by decide), hplain, List.nil_append, hend,
        or_true, if_true]
    · rw [skipComment?_cons hc] at hskip
      exact absurd hskip nofun

end AudioLink.Toml
