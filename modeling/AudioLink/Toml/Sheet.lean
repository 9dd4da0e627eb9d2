import AudioLink.Data.Value
import AudioLink.Toml.Atom
import AudioLink.Toml.Quoting

/-
Sheets: documents of TOML in the layout in which they are written.

A sheet is a list of sections, one for each table, and a section is the path of its table with the
plain values of it, one on a line. The sections of the tables inside a table follow its own. A
table that holds nothing but tables needs no section. Blank lines stand between sections.
-/
set_option autoImplicit false

namespace AudioLink.Toml

/-- A value that is written on one line. -/
inductive Plain where
  | bool (b : Bool)
  | int (n : Int)
  | text (s : String)
  deriving DecidableEq, Repr

/-- The written form of a plain value. -/
def Plain.render : Plain → List Char
  | bool true => "true".toList
  | bool false => "false".toList
  | int n => Digits.signed n
  | text s => quote s.toList

/-- A key and its plain value. -/
abbrev Entry := String × Plain

/-- A table with the plain values that it holds itself. -/
structure Section where
  /-- Path of the table; empty for the root. -/
  path : List String
  /-- The plain values. -/
  entries : List Entry
  deriving DecidableEq, Repr

/-- The written form of one part of a key. -/
def renderKeyPart (name : String) : List Char :=
  let cs := name.toList
  if cs ≠ [] ∧ cs.all fun c => c.isAlphanum || c = '_' || c = '-' then cs else quote cs

/-- The written form of a path. -/
def renderPath : List String → List Char
  | [] => []
  | [name] => renderKeyPart name
  | name :: rest => renderKeyPart name ++ '.' :: renderPath rest

/-- A key with its value as a line. -/
def renderEntry (e : Entry) : List Char :=
  renderKeyPart e.1 ++ " = ".toList ++ e.2.render ++ ['\n']

/-- The header of a section as a line; the root has none. -/
def renderHeader (path : List String) : List Char :=
  if path = [] then [] else '[' :: renderPath path ++ [']', '\n']

/-- A section as lines. -/
def Section.render (s : Section) : List Char :=
  renderHeader s.path ++ s.entries.flatMap renderEntry

/-- Sections with a blank line between each two of them. -/
def renderSheet : List Section → List Char
  | [] => []
  | [s] => s.render
  | s :: rest => s.render ++ '\n' :: renderSheet rest

/-! ## Values as sheets -/

/-- A plain value that is not too large to be written. -/
def plain? : Value → Option Plain
  | .bool b => some (.bool b)
  | .int n => if minInt ≤ n ∧ n ≤ maxInt then some (.int n) else none
  | .text s => some (.text s)
  | _ => none

/-- The plain values among named values, if every one of them can be written. -/
def entries? : List (String × Value) → Option (List Entry)
  | [] => some []
  | (name, v) :: rest =>
    if v.isTable then entries? rest
    else do
      let p ← plain? v
      let more ← entries? rest
      some ((name, p) :: more)

mutual

/-- The sections of a value under a path: none for a plain value. -/
def sections? (path : List String) : Value → Option (List Section)
  | .table fields => do
    let entries ← entries? fields
    let inner ← fieldSections? path fields
    -- A table without anything in it keeps its header, or it would be lost.
    some (if entries = [] ∧ inner ≠ [] then inner else ⟨path, entries⟩ :: inner)
  | _ => some []

/-- The sections of the tables among named values. -/
def fieldSections? (path : List String) : List (String × Value) → Option (List Section)
  | [] => some []
  | (name, v) :: rest => do
    let first ← sections? (path ++ [name]) v
    let more ← fieldSections? path rest
    some (first ++ more)

end

/-- The written form of a table, if every value in it has one. -/
def write? (v : Value) : Option (List Char) := (sections? [] v).map renderSheet

end AudioLink.Toml
