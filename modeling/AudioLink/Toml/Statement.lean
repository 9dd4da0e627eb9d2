import AudioLink.Toml.Atom
import AudioLink.Toml.Quoting
import AudioLink.Toml.Tree

/-
Statements of TOML: the lines of a document, read one by one.

A statement is a header or a key with a value. Each reader takes a text and answers what it found
at the front together with the text behind it. Lists and inline tables nest at most `maxNesting`
deep, and that number is what the reader of values recurses on; the items of a list and the
statements of a document are as many as the text is long at most.
-/
set_option autoImplicit false

namespace AudioLink.Toml

/-! ## Keys -/

/-- Most parts of a dotted key. -/
def maxKeyParts : Nat := 79

/-- Most levels of lists and inline tables. -/
def maxNesting : Nat := 79

/-- Whether a character may stand in a key without quotes. -/
def isKeyChar (c : Char) : Bool := c.isAlphanum || c = '_' || c = '-'

/-- Reads one part of a key. -/
def keyPart? (cs : List Char) : Option (String × List Char) :=
  match shortString? cs with
  | some (s, rest) => some (String.ofList s, rest)
  | none =>
    -- A quote that is not closed is no bare key either, so nothing is misread here.
    let part := cs.takeWhile isKeyChar
    if part = [] then none else some (String.ofList part, cs.dropWhile isKeyChar)

/-- Reads the parts of a key, with dots between them and blanks around the dots. `fuel` bounds the
number of parts. -/
def keyParts? : Nat → List Char → Option (List String × List Char)
  | 0, _ => none
  | fuel + 1, cs => do
    let (part, rest) ← keyPart? (skipBlanks cs)
    match skipBlanks rest with
    | '.' :: more =>
      let (parts, rest) ← keyParts? fuel more
      some (part :: parts, rest)
    | rest => some ([part], rest)

/-- Reads a key of one or more parts, and the blanks around it. -/
def key? (cs : List Char) : Option (List String × List Char) := keyParts? maxKeyParts cs

/-! ## Comments and blanks -/

/-- The text behind a comment, if one is there: what follows from the end of its line on. A comment
holds no controls. -/
def skipComment? : List Char → Option (List Char)
  | '#' :: rest =>
    let rest := rest.dropWhile isPlain
    if rest = [] ∨ (lineEnd? rest).isSome then some rest else none
  | cs => some cs

/-- The text behind blanks, line ends and comments, as they may stand between the items of a
list. -/
def skipLines? : Nat → List Char → Option (List Char)
  | 0, _ => none
  | fuel + 1, cs => do
    let rest ← skipComment? (skipBlanks cs)
    match lineEnd? rest with
    | some more => skipLines? fuel more
    | none => some rest

/-! ## Values -/

/-- A reader of one kind of thing. -/
abbrev Reader (α : Type) := List Char → Option (α × List Char)

/-- Reads the items of a list, from behind its opening bracket or a comma on, with each item read
by `item?`. `fuel` bounds their number. -/
def items? (item? : Reader Value) : Nat → Reader (List Value)
  | 0, _ => none
  | fuel + 1, cs => do
    let cs ← skipLines? (cs.length + 1) cs
    match cs with
    | ']' :: rest => some ([], rest)
    | cs =>
      let (v, rest) ← item? cs
      match ← skipLines? (rest.length + 1) rest with
      | ',' :: more =>
        let (vs, rest) ← items? item? fuel more
        some (v :: vs, rest)
      | ']' :: more => some ([v], more)
      | _ => none

/-- Reads a key, an equals sign and a value. -/
def pair? (item? : Reader Value) (cs : List Char) : Option ((List String × Value) × List Char) := do
  let (key, rest) ← key? cs
  match rest with
  | '=' :: rest =>
    let (v, rest) ← item? (skipBlanks rest)
    some ((key, v), rest)
  | _ => none

/-- Adds a key with its value to a table. -/
def addPair (fields : Fields) (key : List String) (v : Value) : Option Fields :=
  match key.getLast? with
  | some name => fields.assignKey key.dropLast name v
  | none => none

/-- Reads the keys of an inline table and adds them to those that are there already. -/
def pairs? (item? : Reader Value) : Nat → Fields → Reader Fields
  | 0, _, _ => none
  | fuel + 1, fields, cs => do
    let ((key, v), rest) ← pair? item? cs
    let fields ← addPair fields key v
    match skipBlanks rest with
    | ',' :: more => pairs? item? fuel fields more
    | '\x7d' :: more => some (fields, more)
    | _ => none

/-- Reads a value, with the items of a list and the values of an inline table read by `nested?`; if
there is no such reader, lists and inline tables are refused. -/
def itemWith? (nested? : Option (Reader Value)) (cs : List Char) : Option (Value × List Char) :=
  match cs with
  | '"' :: _ | '\'' :: _ => (string? cs).map fun (s, rest) => (.text (String.ofList s), rest)
  | '[' :: rest => do
    let (vs, rest) ← items? (← nested?) (rest.length + 1) rest
    some (.list vs, rest)
  | '\x7b' :: rest => do
    let item? ← nested?
    match skipBlanks rest with
    | '\x7d' :: rest => some (.table [], rest)
    | rest =>
      let (fields, rest) ← pairs? item? (rest.length + 1) [] rest
      some (.table (fieldValues fields), rest)
  | _ =>
    let (w, rest) := word cs
    (ofWord? w).map (·, rest)

/-- Reads a value in which lists and inline tables nest at most so many levels deep. -/
def item? : Nat → Reader Value
  | 0 => itemWith? none
  | depth + 1 => itemWith? (some (item? depth))

/-! ## Statements -/

/-- A statement of a document. -/
inductive Statement where
  /-- Opens the table at a path. -/
  | header (path : List String)
  /-- Opens the next table of the list at a path. -/
  | listHeader (path : List String)
  /-- Gives a key of the open table a value. -/
  | pair (key : List String) (v : Value)

/-- Reads a statement, if there is one in front of the end of the line or a comment. -/
def statement? (cs : List Char) : Option (Option Statement × List Char) :=
  match skipBlanks cs with
  | '[' :: '[' :: rest => do
    let (path, rest) ← key? rest
    match rest with
    | ']' :: ']' :: rest => some (some (.listHeader path), rest)
    | _ => none
  | '[' :: rest => do
    let (path, rest) ← key? rest
    match rest with
    | ']' :: rest => some (some (.header path), rest)
    | _ => none
  | rest =>
    if rest = [] ∨ rest.head? = some '#' ∨ (lineEnd? rest).isSome then some (none, rest)
    else (pair? (item? maxNesting) rest).map fun ((key, v), rest) => (some (.pair key v), rest)

/-- Reads the statements of a document. `fuel` bounds the number of its lines. -/
def statements? : Nat → List Char → Option (List Statement)
  | 0, _ => none
  | fuel + 1, cs => do
    let (statement, rest) ← statement? cs
    let rest ← skipComment? (skipBlanks rest)
    let more ←
      match lineEnd? rest with
      | some rest => statements? fuel rest
      | none => if rest = [] then some [] else none
    some (statement.toList ++ more)

end AudioLink.Toml
