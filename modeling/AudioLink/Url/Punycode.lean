/-
Punycode: names with characters above ASCII, written in ASCII, and read back.

The ASCII characters of a label come first, as they are. The others are then put in by rising
number: each insertion is written as the number of places that it lies behind the one before, in a
notation with digits of base 36 of which the last is told by being small. How small depends on
`bias`, which follows the sizes of the numbers written so far.
-/
set_option autoImplicit false

namespace AudioLink.Url.Punycode

/-- The digit of a value below 36: a letter, and then a decimal digit. -/
def digit (d : Nat) : Char := if d < 26 then Char.ofNat (97 + d) else Char.ofNat (22 + d)

/-- The value below which the digit at place `k` is the last one. -/
def threshold (k bias : Nat) : Nat := max 1 (min 26 (k - bias))

/-- The digits of `n`, from the place `k` on. -/
def digits (bias k n : Nat) : List Char :=
  let t := threshold k bias
  if n < t then [digit n]
  else digit (t + (n - t) % (36 - t)) :: digits bias (k + 36) ((n - t) / (36 - t))
termination_by n
decreasing_by
  have h : 1 ≤ threshold k bias := Nat.le_max_left _ _
  exact Nat.lt_of_le_of_lt (Nat.div_le_self _ _) (by omega)

/-- Brings a number down to 455 by dividing by 35, and counts 36 for each division. -/
def scaleDown (n k : Nat) : Nat × Nat := if 455 < n then scaleDown (n / 35) (k + 36) else (n, k)
termination_by n

/-- The bias after a number has been written, as the `count`th in the label. -/
def adapt (n count : Nat) (isFirst : Bool) : Nat :=
  let halved := if isFirst then n / 700 else n / 2
  let (rest, k) := scaleDown (halved + halved / count) 0
  k + 36 * rest / (rest + 38)

/-- A label that is being written. -/
structure Progress where
  /-- What has been written behind the ASCII characters. -/
  written : List Char
  /-- Places passed since the last insertion. -/
  delta : Nat
  /-- Tells the last digit of a number. -/
  bias : Nat
  /-- Number of characters that are in place. -/
  placed : Nat

/-- Passes one character of the label while those with the number `m` are inserted. -/
def pass (basic m : Nat) (p : Progress) (c : Char) : Progress :=
  if c.toNat < m then { p with delta := p.delta + 1 }
  else if c.toNat = m then
    { written := p.written ++ digits p.bias 36 p.delta
      delta := 0
      bias := adapt p.delta (p.placed + 1) (p.placed = basic)
      placed := p.placed + 1 }
  else p

/-- Inserts the characters with the numbers in the list, which rises from `n` on. -/
def insertAll (label : List Char) (basic : Nat) : List Nat → Nat → Progress → Progress
  | [], _, p => p
  | m :: rest, n, p =>
    -- Every number that is skipped passes all places of the label once.
    let p := { p with delta := p.delta + (m - n) * (p.placed + 1) }
    let p := label.foldl (pass basic m) p
    insertAll label basic rest (m + 1) { p with delta := p.delta + 1 }

/-- A label in ASCII, without the mark in front of it. -/
def encode (label : List Char) : List Char :=
  let basic := label.filter fun c => c.toNat < 128
  let others := ((label.filter fun c => 128 ≤ c.toNat).map Char.toNat).eraseDups.mergeSort
  let separator := if basic = [] then [] else ['-']
  basic ++ separator ++ (insertAll label basic.length others 128 ⟨[], 0, 72, basic.length⟩).written

/-- The mark of a label that is written in this way. -/
def mark : List Char := "xn--".toList

/-- A label as it stands in a domain name. -/
def labelText (label : List Char) : List Char :=
  if label.all fun c => c.toNat < 128 then label else mark ++ encode label

/-! ## Reading -/

/-- The value of a digit. -/
def value? (c : Char) : Option Nat :=
  if 'a' ≤ c ∧ c ≤ 'z' then some (c.toNat - 'a'.toNat)
  else if c.isDigit then some (c.toNat - '0'.toNat + 26)
  else none

/-- The character of a number, if there is one. -/
def char? (n : Nat) : Option Char :=
  let c := Char.ofNat n
  if c.toNat = n then some c else none

/-- A label that is being read. -/
structure Reading where
  /-- The characters that are in place. -/
  label : List Char
  /-- The number of the character inserted last. -/
  point : Nat
  /-- Places passed, in all rounds over the label since then. -/
  places : Nat
  /-- Places passed when the number that is being read began. -/
  start : Nat
  /-- The place of the next digit. -/
  k : Nat
  /-- What the next digit is worth. -/
  weight : Nat
  /-- Tells the last digit of a number. -/
  bias : Nat

/-- Takes the next digit, and inserts a character if it is the last one of its number. -/
def Reading.next? (r : Reading) (c : Char) : Option Reading := do
  let d ← value? c
  let places := r.places + d * r.weight
  let t := threshold r.k r.bias
  if t ≤ d then return { r with places, k := r.k + 36, weight := r.weight * (36 - t) }
  else
    let count := r.label.length + 1
    let point := r.point + places / count
    let place := places % count
    let inserted ← char? point
    return {
      label := r.label.take place ++ inserted :: r.label.drop place
      point, places := place + 1, start := place + 1, k := 36, weight := 1
      bias := adapt (places - r.start) count (r.start = 0) }

/-- The label that a text stands for, without the mark in front of it. Nothing stands for a label
in ASCII, which is its own text. -/
def decode? (text : List Char) : Option (List Char) := do
  -- The last hyphen parts the two halves, unless it is the first character.
  let behind := (text.reverse.takeWhile (· ≠ '-')).reverse
  let basic := (text.take (text.length - behind.length)).dropLast
  let digits := if text.head? = some '-' ∧ basic = [] then text else behind
  if digits = [] then none
  else if basic.any fun c => 128 ≤ c.toNat then none
  else
    let r ← digits.foldlM Reading.next? ⟨basic, 128, 0, 0, 36, 1, 72⟩
    -- The text must not end inside of a number.
    if r.k = 36 then some r.label else none

end AudioLink.Url.Punycode
