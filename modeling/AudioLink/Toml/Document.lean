import AudioLink.Toml.Statement

/-
Documents of TOML as values.

The statements of a document are carried out in order. The state is the root table as it stands and
the path of the table that the last header opened.
-/
set_option autoImplicit false

namespace AudioLink.Toml

/-- A document of which some statements have been carried out. -/
structure Draft where
  root : Fields
  /-- Path of the open table. -/
  path : List String

namespace Draft

/-- The document without statements; its root table is open. -/
def empty : Draft := ⟨[], []⟩

/-- Opens a table by its path; `declare` opens it in the table that the path leads to. -/
def openTable (declare : String → Fields → Option Fields) (draft : Draft) (path : List String) :
    Option Draft :=
  match path.getLast? with
  | some name => (draft.root.under (declare name) path.dropLast).map fun root => ⟨root, path⟩
  | none => none

/-- Carries out one statement. -/
def run (draft : Draft) : Statement → Option Draft
  | .header path => draft.openTable Fields.declare path
  | .listHeader path => draft.openTable Fields.declareNext path
  | .pair key v =>
    (draft.root.under (fun fields => addPair fields key v) draft.path).map fun root =>
      { draft with root }

end Draft

/-- A text without the mark of its byte order. -/
def skipByteOrderMark : List Char → List Char
  | '\uFEFF' :: rest => rest
  | cs => cs

/-- Reads a document as a table. -/
def parse? (text : List Char) : Option Value := do
  let cs := skipByteOrderMark text
  let statements ← statements? (cs.length + 1) cs
  let draft ← statements.foldlM Draft.run .empty
  some (.table (fieldValues draft.root))

end AudioLink.Toml
