import AudioLink.Proofs.Text
import AudioLink.Toml.Atom

/-
Truth values and whole numbers are read as they are written.

Both are words: a reader takes as many characters as may stand in a word, so what is written is read
back as long as something else follows, and the end of a line is something else. A numeral is no
word of another kind, because it starts with a sign or with a digit that no other digit of a
different radix announces.
-/
set_option autoImplicit false

namespace AudioLink.Toml

/-! ## Numerals -/

/-- Digits without a mark between them are grouped well, if there are any. -/
theorem isGrouped_of_all {p : Char → Bool} {cs : List Char} (hne : cs ≠ [])
    (hall : ∀ c ∈ cs, p c = true) (hplain : ∀ c ∈ cs, c ≠ '_') : isGrouped p cs = true := by
  induction cs with
  | nil => exact absurd rfl hne
  | cons c cs ih =>
    cases cs with
    | nil => simp [isGrouped, hall c]
    | cons d cs =>
      have hd : d ≠ '_' := hplain d (by simp)
      have hrest : isGrouped p (d :: cs) = true := by
        apply ih
        · simp
        · intro c' hc'
          exact hall c' (by simp [hc'])
        · intro c' hc'
          exact hplain c' (by simp [hc'])
      have hc : p c = true := hall c (by simp)
      simp [isGrouped, hd, hc, hrest]

/-- Where there is no mark between digits, none is taken away. -/
theorem ungroup_of_plain {cs : List Char} (hplain : ∀ c ∈ cs, c ≠ '_') : ungroup cs = cs := by
  rw [ungroup, List.filter_eq_self]
  simpa using hplain

/-- A natural number is read as it is written in decimal. -/
theorem magnitude?_decimal (n : Nat) : magnitude? (Digits.decimal n) = some n := by
  have hdigits : ∀ c ∈ Digits.decimal n, c.isDigit = true :=
    fun c hc => Digits.isDigit_of_mem_decimal hc
  have hplain : ∀ c ∈ Digits.decimal n, c ≠ '_' := fun c hc => Text.ne_of_test (hdigits c hc) rfl
  have hgrouped := isGrouped_of_all (Digits.decimal_ne_nil n) hdigits hplain
  -- A zero in front of other digits would be refused.
  have hzero : ¬ ((Digits.decimal n).head? = some '0' ∧ Digits.decimal n ≠ ['0']) := by
    rintro ⟨hhead, hne⟩
    by_cases hn : n = 0
    · subst hn
      exact hne rfl
    · exact Digits.head_decimal hn hhead
  rw [magnitude?, if_pos ⟨hgrouped, hzero⟩, ungroup_of_plain hplain, Digits.decimal?_decimal]

/-- What starts with a digit has no sign. -/
theorem sign_of_digits {cs : List Char} (hdigits : ∀ c ∈ cs, c.isDigit = true) :
    sign cs = (false, cs) := by
  unfold sign
  split
  · exact absurd (hdigits '-' (by simp)) (by decide)
  · exact absurd (hdigits '+' (by simp)) (by decide)
  · rfl

/-- A whole number is read as it is written, of any size. -/
theorem wholeNumber?_signed (n : Int) : wholeNumber? (Digits.signed n) = some n := by
  have hdigits : ∀ c ∈ Digits.decimal n.natAbs, c.isDigit = true :=
    fun c hc => Digits.isDigit_of_mem_decimal hc
  -- The marks of the other radices are letters.
  have hmark : ∀ c d cs, Digits.signed n = c :: d :: cs → d.isDigit = true := by
    intro c d cs hcs
    rw [Digits.signed] at hcs
    split at hcs
    · obtain ⟨-, hcs⟩ := List.cons.inj hcs
      exact hdigits d (by simp [hcs])
    · exact hdigits d (by simp [hcs])
  unfold wholeNumber?
  split
  · rename_i digits hcs
    exact absurd (hmark _ _ _ hcs) (by decide)
  · rename_i digits hcs
    exact absurd (hmark _ _ _ hcs) (by decide)
  · rename_i digits hcs
    exact absurd (hmark _ _ _ hcs) (by decide)
  · rw [Digits.signed]
    by_cases hn : n < 0
    · have habs : -(n.natAbs : Int) = n := by omega
      rw [if_pos hn]
      simp only [sign, magnitude?_decimal]
      exact congrArg some habs
    · have habs : (n.natAbs : Int) = n := by omega
      rw [if_neg hn]
      simp only [sign_of_digits hdigits, magnitude?_decimal]
      exact congrArg some habs

/-- A whole number that fits a TOML integer is read as it is written. -/
theorem int?_signed {n : Int} (hmin : minInt ≤ n) (hmax : n ≤ maxInt) :
    int? (Digits.signed n) = some n := by
  simp only [int?, wholeNumber?_signed, Option.bind_eq_bind, Option.bind_some, if_pos (And.intro hmin hmax)]

/-! ## Words -/

/-- A digit may stand in a word. -/
theorem isWordChar_of_isDigit {c : Char} (hc : c.isDigit = true) : isWordChar c = true := by
  simp [isWordChar, Char.isAlphanum, hc]

/-- A numeral with its sign is a word. -/
theorem isWordChar_signed (n : Int) : ∀ c ∈ Digits.signed n, isWordChar c = true := by
  obtain ⟨c, cs, hcs, hc, hdigits⟩ := Digits.signed_eq_cons n
  rw [hcs]
  intro d hd
  rcases List.mem_cons.mp hd with rfl | hd
  · rcases hc with rfl | hc
    · decide
    · exact isWordChar_of_isDigit hc
  · exact isWordChar_of_isDigit (hdigits d hd)

/-- A word ends at the end of its line. -/
theorem word_append_newline {w : List Char} (hw : ∀ c ∈ w, isWordChar c = true)
    (rest : List Char) : word (w ++ '\n' :: rest) = (w, '\n' :: rest) := by
  have hstop : ∀ c ∈ ('\n' :: rest).head?, isWordChar c = false := by simp [isWordChar]
  rw [word, Text.takeWhile_append_of_stop hw hstop, Text.dropWhile_append_of_stop hw hstop]
  rfl

/-- The word for truth. -/
theorem ofWord?_true : ofWord? "true".toList = some (.bool true) := if_pos rfl

/-- The word for falsehood, which the test for truth lets through. -/
theorem ofWord?_false : ofWord? "false".toList = some (.bool false) := by
  rw [ofWord?, if_neg (by decide), if_pos rfl]

/-- A numeral is read as a number and as no truth value, as it starts with no letter. -/
theorem ofWord?_signed {n : Int} (hmin : minInt ≤ n) (hmax : n ≤ maxInt) :
    ofWord? (Digits.signed n) = some (.int n) := by
  obtain ⟨c, cs, hcs, hc, -⟩ := Digits.signed_eq_cons n
  have hletter : ∀ d : Char, d.isDigit = false → d ≠ '-' → c ≠ d := by
    intro d hd hdash
    rcases hc with rfl | hc
    · exact Ne.symm hdash
    · exact Text.ne_of_test hc hd
  have htrue : Digits.signed n ≠ "true".toList := by
    rw [hcs]
    intro heq
    exact hletter 't' (by decide) (by decide) (List.cons.inj heq).1
  have hfalse : Digits.signed n ≠ "false".toList := by
    rw [hcs]
    intro heq
    exact hletter 'f' (by decide) (by decide) (List.cons.inj heq).1
  rw [ofWord?, if_neg htrue, if_neg hfalse, int?_signed hmin hmax]

end AudioLink.Toml
