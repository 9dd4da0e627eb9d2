import AudioLink.Text.Segments
import AudioLink.Text.Digits

/-
Tables of characters, as the Unicode standard gives them: runs of code points, each run with some
numbers that the table says about it.

A table is written in lines, as runs with spaces between them, all numbers in hexadecimal. A run is
the first code point, maybe a minus sign and the last one, maybe a slash and the distance of those
that belong to it, maybe a colon and the numbers with dots between them: `41-5a:61`,
`100-12e/2:101`, `132:69.6a`. A linear search is enough, since only characters above ASCII are looked up.
-/
set_option autoImplicit false

namespace AudioLink

/-- Code points at equal distances, and what a table says about them. -/
structure CodeRun where
  first : Nat
  /-- A bound that includes the last code point. -/
  last : Nat
  /-- The distance from each code point to the next one. -/
  step : Nat
  /-- The numbers that go with the run. -/
  values : List Nat
  deriving DecidableEq, Repr

namespace CodeRun

/-- Whether the run holds `c`. -/
def contains (run : CodeRun) (c : Char) : Bool :=
  run.first ≤ c.toNat && c.toNat ≤ run.last && (c.toNat - run.first) % run.step == 0

/-- The characters that stand for `c` in a table of replacements: a single one rises with the
character that it stands for. -/
def image (run : CodeRun) (c : Char) : List Char :=
  match run.values with
  | [value] => [Char.ofNat (value + (c.toNat - run.first))]
  | values => values.map Char.ofNat

/-- Reads a run; `none` if a number is malformed. -/
def ofText? (cs : List Char) : Option CodeRun := do
  let (source, values) := cs.span (· ≠ ':')
  let (bounds, step) := source.span (· ≠ '/')
  let (first, last) := bounds.span (· ≠ '-')
  let first ← Digits.inRadix? 16 first
  let last ← if last = [] then some first else Digits.inRadix? 16 (last.drop 1)
  let step ← if step = [] then some 1 else Digits.inRadix? 16 (step.drop 1)
  let values ←
    if values = [] then some []
    else (Segments.split '.' (values.drop 1)).mapM (Digits.inRadix? 16)
  return { first, last, step, values }

end CodeRun

/-- Runs, of which the first that holds a character counts. -/
abbrev CodeTable := List CodeRun

namespace CodeTable

/-- Reads a table that is written in lines. What is no run is left out. -/
def ofLines (lines : List String) : CodeTable :=
  lines.flatMap fun line => (Segments.split ' ' line.toList).filterMap CodeRun.ofText?

/-- The run that holds `c`. -/
def run? (table : CodeTable) (c : Char) : Option CodeRun := table.find? (·.contains c)

/-- Whether the table holds `c`. -/
def contains (table : CodeTable) (c : Char) : Bool := table.any (·.contains c)

end CodeTable
end AudioLink
