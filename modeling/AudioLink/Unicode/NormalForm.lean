import AudioLink.Unicode.Composite

/-
The composed normal form of a text: of all ways to write the same letters with the same marks, the
one in which marks stand in the order of their ranks and every pair that has a composite is
composed.

A text is taken apart, its marks are put in order, and it is put together again from the left: a
character joins the last character that began something new, unless one that stands between them
ranks as high as it does.
-/
set_option autoImplicit false

namespace AudioLink.NormalForm

open Composite (markRank)

/-! ## Order of marks -/

/-- Puts a character behind a text that is given from its end: a mark passes the marks that rank
above it, and nothing else. -/
def push (c : Char) : List Char → List Char
  | [] => [c]
  | d :: done =>
    if 0 < markRank c ∧ markRank c < markRank d then d :: push c done else c :: d :: done

/-- The text with its marks in rising order; marks of one rank keep their order. -/
def sortMarks (cs : List Char) : List Char := (cs.foldl (fun done c => push c done) []).reverse

/-! ## Composing -/

/-- A text that is being composed. -/
structure Progress where
  /-- What is finished, given from its end. -/
  done : List Char
  /-- The last character that began something new, if there is one. -/
  base : Option Char
  /-- The marks behind it that have not joined it, given from their end. -/
  marks : List Char

namespace Progress

/-- All characters, given from their end. -/
def all (p : Progress) : List Char := p.marks ++ p.base.toList ++ p.done

/-- Whether a character can reach the base: no mark that stands between ranks as high. -/
def isOpen (p : Progress) (c : Char) : Bool :=
  p.marks.head?.all fun mark => markRank mark < markRank c

/-- The composite of the base with a character, if it can reach the base and there is one. -/
def joined? (p : Progress) (c : Char) : Option Char :=
  if p.isOpen c then p.base.bind fun base => Composite.compose? base c else none

/-- Adds the next character. -/
def add (p : Progress) (c : Char) : Progress :=
  match p.joined? c with
  | some composite => { p with base := some composite }
  | none =>
    if markRank c = 0 then { done := p.all, base := some c, marks := [] }
    else { p with marks := c :: p.marks }

end Progress

/-- A text in its composed normal form. -/
def compose (cs : List Char) : List Char :=
  let ordered := sortMarks (cs.flatMap Composite.decompose)
  (ordered.foldl Progress.add ⟨[], none, []⟩).all.reverse

/-- Whether a text is in its composed normal form. -/
def isComposed (cs : List Char) : Bool := compose cs == cs

end AudioLink.NormalForm
