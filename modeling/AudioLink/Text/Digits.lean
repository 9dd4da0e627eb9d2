/-
Numerals: decimal text of naturals and integers, and the value of a digit.

Everything works on lists of characters, because every reader in this library consumes a list of
characters. The decimal text of a natural number is the core function `Nat.toDigits 10`, whose
library lemmas say that it holds decimal digits only and that its value is the number again.
-/
set_option autoImplicit false

namespace AudioLink.Digits

/-! ## Decimal -/

/-- The decimal numeral of `n`, without leading zeros. -/
def decimal (n : Nat) : List Char := Nat.toDigits 10 n

/-- The decimal numeral of an integer, with a minus sign in front of a negative one. -/
def signed (n : Int) : List Char :=
  if n < 0 then '-' :: decimal n.natAbs else decimal n.natAbs

/-- The value of a decimal numeral; `none` for a text that is empty or has another character. -/
def decimal? (cs : List Char) : Option Nat :=
  if cs ≠ [] ∧ cs.all Char.isDigit then some (Nat.ofDigitChars 10 cs 0) else none

/-- A decimal numeral has a digit. -/
theorem decimal_ne_nil (n : Nat) : decimal n ≠ [] := Nat.toDigits_ne_nil

/-- A decimal numeral holds digits only. -/
theorem isDigit_of_mem_decimal {n : Nat} {c : Char} (h : c ∈ decimal n) : c.isDigit = true :=
  Nat.isDigit_of_mem_toDigits (by decide) (by decide) h

/-- Reading a decimal numeral gives back its number. -/
theorem decimal?_decimal (n : Nat) : decimal? (decimal n) = some n := by
  have hall : (decimal n).all Char.isDigit = true :=
    List.all_eq_true.2 fun c hc => isDigit_of_mem_decimal hc
  simp [decimal?, decimal_ne_nil, hall]
  exact Nat.ofDigitChars_toDigits (by decide) (by decide)

/-! ## Other radices -/

/-- The value of a hexadecimal digit of either case. -/
def hexValue? (c : Char) : Option Nat :=
  if '0' ≤ c ∧ c ≤ '9' then some (c.toNat - '0'.toNat)
  else if 'a' ≤ c ∧ c ≤ 'f' then some (c.toNat - 'a'.toNat + 10)
  else if 'A' ≤ c ∧ c ≤ 'F' then some (c.toNat - 'A'.toNat + 10)
  else none

/-- Whether `c` is a hexadecimal digit of either case. -/
def isHex (c : Char) : Bool := (hexValue? c).isSome

/-- The hexadecimal digit of `n`, in lower case; only the lowest four bits count. -/
def hexDigit (n : Nat) : Char := Nat.digitChar (n % 16)

/-- The hexadecimal digit of `n`, in upper case; only the lowest four bits count. -/
def upperHexDigit (n : Nat) : Char := (hexDigit n).toUpper

/-- The shortest hexadecimal numeral of `n`, in lower case. -/
def hex (n : Nat) : List Char := Nat.toDigits 16 n

/-- The value of a text of digits in the given radix, each digit worth less than the radix. The
empty text is worth zero. -/
def inRadix? (radix : Nat) (cs : List Char) : Option Nat :=
  -- A digit that is too large for the radix is refused like any other character.
  cs.foldlM (fun acc c => do
    let d ← hexValue? c
    if d < radix then some (acc * radix + d) else none) 0

/-- The digits that hexadecimal numerals are made of have their values. -/
theorem hexValue?_digitChar : ∀ {n : Nat}, n < 16 → hexValue? (Nat.digitChar n) = some n := by
  decide

/-- Reading a hexadecimal numeral gives back its number. -/
theorem inRadix?_hex (n : Nat) : inRadix? 16 (hex n) = some n := by
  induction n using Nat.strongRecOn with
  | ind n ih =>
    unfold hex inRadix? at ih ⊢
    rw [Nat.toDigits_eq_if (by decide)]
    by_cases hn : n < 16
    · simp [hn, hexValue?_digitChar]
    · have hmod : n % 16 < 16 := Nat.mod_lt n (by decide)
      rw [if_neg hn, List.foldlM_append, ih (n / 16) (by omega)]
      simp [hexValue?_digitChar, hmod]
      omega

/-- A hexadecimal numeral holds hexadecimal digits only. -/
theorem isHex_of_mem_hex {n : Nat} {c : Char} (h : c ∈ hex n) : isHex c = true := by
  induction n using Nat.strongRecOn with
  | ind n ih =>
    unfold hex at ih h
    rw [Nat.toDigits_eq_if (by decide)] at h
    by_cases hn : n < 16
    · rw [if_pos hn, List.mem_singleton] at h
      rw [h, isHex, hexValue?_digitChar hn]; rfl
    · rw [if_neg hn, List.mem_append, List.mem_singleton] at h
      rcases h with h | h
      · exact ih (n / 16) (by omega) h
      · rw [h, isHex, hexValue?_digitChar (Nat.mod_lt n (by decide))]; rfl

end AudioLink.Digits
