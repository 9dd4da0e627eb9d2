import AudioLink.Data.Value
import AudioLink.Text.Digits

/-
Values of TOML that are written without quotes or brackets: truth values, numbers, and moments.

Such a value is one word. Digits may be grouped by single underscores. A whole number has 64 bits
and may be written in one of four radices; a number with a fraction or an exponent may have any
size below the greatest double, and only its kind is kept. A date and a time of day are checked to
exist.
-/
set_option autoImplicit false

namespace AudioLink.Toml

/-! ## Numbers -/

/-- Whether digits are there, grouped by single underscores that stand between two of them. -/
def isGrouped (isDigit : Char → Bool) : List Char → Bool
  | [] => false
  | [c] => isDigit c
  | c :: '_' :: rest => isDigit c && isGrouped isDigit rest
  | c :: rest => isDigit c && isGrouped isDigit rest

/-- The digits without the underscores between them. -/
def ungroup (cs : List Char) : List Char := cs.filter (· ≠ '_')

/-- A sign, and what stands behind it. -/
def sign : List Char → Bool × List Char
  | '-' :: rest => (true, rest)
  | '+' :: rest => (false, rest)
  | cs => (false, cs)

/-- The magnitude of a decimal numeral without a sign. It has no leading zero. -/
def magnitude? (cs : List Char) : Option Nat :=
  if isGrouped Char.isDigit cs ∧ ¬(cs.head? = some '0' ∧ cs ≠ ['0']) then
    Digits.decimal? (ungroup cs)
  else none

/-- The value of digits in the given radix. -/
def radixNumber? (radix : Nat) (cs : List Char) : Option Nat :=
  if isGrouped (fun c => (Digits.hexValue? c).any (· < radix)) cs then
    Digits.inRadix? radix (ungroup cs)
  else none

/-- A whole number of any size. -/
def wholeNumber? : List Char → Option Int
  | '0' :: 'x' :: digits => (radixNumber? 16 digits).map Int.ofNat
  | '0' :: 'o' :: digits => (radixNumber? 8 digits).map Int.ofNat
  | '0' :: 'b' :: digits => (radixNumber? 2 digits).map Int.ofNat
  | cs =>
    let (negative, digits) := sign cs
    (magnitude? digits).map fun n => if negative then -(n : Int) else n

/-- Least whole number. -/
def minInt : Int := Int64.minValue.toInt

/-- Greatest whole number. -/
def maxInt : Int := Int64.maxValue.toInt

/-- A whole number in range. -/
def int? (cs : List Char) : Option Int := do
  let n ← wholeNumber? cs
  if minInt ≤ n ∧ n ≤ maxInt then some n else none

/-- Whether digits `m` with an exponent of ten `e` make a number that is rounded to infinity: one
that is nearer to 2^1024 than to the greatest double. The order of magnitude is looked at first, so
that no huge power is formed. -/
def overflows (m : Nat) (e : Int) : Bool :=
  let order := (Digits.decimal m).length + e
  -- The greatest double has 309 digits before its point.
  if m = 0 ∨ order < 300 then false
  else if 320 < order then true
  else
    let bound := Nat.pow 2 1024 - Nat.pow 2 970
    if 0 ≤ e then bound ≤ m * Nat.pow 10 e.toNat else bound * Nat.pow 10 (-e).toNat ≤ m

/-- The parts of a number around the first character that is in the set. -/
def cut (set : Char → Bool) (cs : List Char) : List Char × Option (List Char) :=
  let front := cs.takeWhile fun c => !set c
  match cs.dropWhile fun c => !set c with
  | [] => (front, none)
  | _ :: back => (front, some back)

/-- Whether a word is a number with a fraction, an exponent, or both, or one of the two words for
what is no finite number. A positive number is not too large. -/
def isReal (cs : List Char) : Bool :=
  let (negative, body) := sign cs
  if body = "inf".toList ∨ body = "nan".toList then true
  else
    let (mantissa, exponent) := cut (fun c => c = 'e' || c = 'E') body
    let (whole, fraction) := cut (· = '.') mantissa
    let fractionDigits := fraction.getD []
    let exponentDigits := exponent.elim ['0'] fun e => (sign e).2
    (fraction.isSome || exponent.isSome)
      && (magnitude? whole).isSome
      && (fraction.isNone || isGrouped Char.isDigit fractionDigits)
      && isGrouped Char.isDigit exponentDigits
      -- A negative number may be rounded to minus infinity, a positive one to no infinity.
      && (negative ||
        let digits := ungroup (whole ++ fractionDigits)
        let power := (Digits.decimal? (ungroup exponentDigits)).getD 0
        let shift : Int := if exponent.any fun e => (sign e).1 then -power else power
        !overflows ((Digits.decimal? digits).getD 0) (shift - (ungroup fractionDigits).length))

/-! ## Moments -/

/-- The value of exactly `n` decimal digits. -/
def fixedDigits? (n : Nat) (cs : List Char) : Option Nat :=
  if cs.length = n then Digits.decimal? cs else none

/-- Number of days in a month. -/
def daysInMonth (year month : Nat) : Nat :=
  if month = 2 then
    if year % 4 = 0 ∧ (year % 100 ≠ 0 ∨ year % 400 = 0) then 29 else 28
  else if month ∈ [4, 6, 9, 11] then 30
  else 31

/-- Whether a text is a date that exists, as `1979-05-27`. -/
def isDate : List Char → Bool
  | [a, b, c, d, '-', e, f, '-', g, h] =>
    match fixedDigits? 4 [a, b, c, d], fixedDigits? 2 [e, f], fixedDigits? 2 [g, h] with
    | some year, some month, some day =>
      1 ≤ month && month ≤ 12 && 1 ≤ day && day ≤ daysInMonth year month
    | _, _, _ => false
  | _ => false

/-- Whether a text is an hour and a minute, as `07:32`. -/
def isHourMinute : List Char → Bool
  | [a, b, ':', c, d] =>
    match fixedDigits? 2 [a, b], fixedDigits? 2 [c, d] with
    | some hour, some minute => hour ≤ 23 && minute ≤ 59
    | _, _ => false
  | _ => false

/-- Whether a text is a time of day with seconds, and maybe a fraction of a second. A leap second
counts. -/
def isTime (cs : List Char) : Bool :=
  isHourMinute (cs.take 5) &&
    match cs.drop 5 with
    | ':' :: a :: b :: fraction =>
      (match fixedDigits? 2 [a, b] with
        | some second => second ≤ 60
        | none => false)
      && (match fraction with
        | [] => true
        | '.' :: digits => digits != [] && digits.all Char.isDigit
        | _ => false)
    | _ => false

/-- Whether a text is the distance of a clock from universal time. -/
def isOffset : List Char → Bool
  | ['Z'] | ['z'] => true
  | '+' :: clock | '-' :: clock => isHourMinute clock
  | _ => false

/-- Whether a text is a time of day with an offset or without. -/
def isTimeWithOffset (cs : List Char) : Bool :=
  let time := cs.takeWhile fun c => c.isDigit || c = ':' || c = '.'
  let offset := cs.dropWhile fun c => c.isDigit || c = ':' || c = '.'
  isTime time && (offset = [] || isOffset offset)

/-- Whether a text is a date, a time of day, or both with a mark between them. Only a time that has
a date may have an offset. -/
def isMoment (cs : List Char) : Bool :=
  isTime cs ||
    isDate (cs.take 10) &&
      match cs.drop 10 with
      | [] => true
      | mark :: time => (mark = 'T' || mark = 't' || mark = ' ') && isTimeWithOffset time

/-! ## Words -/

/-- Whether a character may stand in a word. -/
def isWordChar (c : Char) : Bool :=
  c.isAlphanum || c = '_' || c = '-' || c = '+' || c = '.' || c = ':'

/-- The word at the front of a text, and what follows. A date takes a time of day that follows
after one space. -/
def word (cs : List Char) : List Char × List Char :=
  let first := cs.takeWhile isWordChar
  match cs.dropWhile isWordChar with
  | ' ' :: c :: rest =>
    if isDate first ∧ c.isDigit then
      (first ++ ' ' :: (c :: rest).takeWhile isWordChar, (c :: rest).dropWhile isWordChar)
    else (first, ' ' :: c :: rest)
  | rest => (first, rest)

/-- The value of a word. -/
def ofWord? (cs : List Char) : Option Value :=
  if cs = "true".toList then some (.bool true)
  else if cs = "false".toList then some (.bool false)
  else
    match int? cs with
    | some n => some (.int n)
    | none =>
      if isReal cs then some .real
      else if isMoment cs then some .moment
      else none

end AudioLink.Toml
