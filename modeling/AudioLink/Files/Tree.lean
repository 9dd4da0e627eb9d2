import AudioLink.Error
import AudioLink.Text.Bytes
import AudioLink.Text.Segments

/-
A tree of files and directories.

A path is the list of names that lead from the root to a place. Looking along a path stops at the
first name that is missing or is no directory, and that decides why a place cannot be reached. The
newest item at a place counts, and nothing is ever taken away.

There are no links, so a place is reached by one path only, and no name leads back up: two dots are a
name like any other here. What is said of places holds of a file system whose paths have been resolved.
-/
set_option autoImplicit false

namespace AudioLink

/-- The names that lead from the root of a tree to a place in it. -/
abbrev FilePath := List String

/-- The path that a text with slashes stands for. Empty names and single dots lead nowhere, so that a
slash at the end is dropped; two dots are not resolved. -/
def FilePath.ofText (text : String) : FilePath :=
  ((Segments.split '/' text.toList).filter fun s => s ≠ [] ∧ s ≠ ['.']).map String.ofList

/-- What stands at a place. -/
inductive FileItem where
  /-- A directory. -/
  | directory
  /-- A file with its contents. -/
  | file (contents : Bytes)
  deriving DecidableEq, Repr

/-- A tree of files and directories without links. -/
structure FileTree where
  /-- Items with their paths, the newest first. The root is not listed. -/
  items : List (FilePath × FileItem)

namespace FileTree

/-- The tree that has a root only. -/
def empty : FileTree := ⟨[]⟩

/-- What stands at a place. -/
def item? (t : FileTree) (path : FilePath) : Option FileItem :=
  if path = [] then some .directory else (t.items.find? fun x => x.1 = path).map (·.2)

/-- Puts an item at a place. -/
def put (t : FileTree) (path : FilePath) (item : FileItem) : FileTree := ⟨(path, item) :: t.items⟩

@[simp] theorem item?_put_self (t : FileTree) (path : FilePath) (item : FileItem) (h : path ≠ []) :
    (t.put path item).item? path = some item := by
  simp [item?, put, h]

theorem item?_put_of_ne (t : FileTree) {path other : FilePath} (item : FileItem)
    (h : other ≠ path) : (t.put path item).item? other = t.item? other := by
  simp [item?, put, Ne.symm h]

/-! ## Operations -/

/-- What is reached by the names `rest` from the place `done`, or why nothing is. -/
def reach (t : FileTree) (done : FilePath) : FilePath → Except FileFault FileItem
  | [] =>
    match t.item? done with
    | some item => .ok item
    | none => .error .notFound
  | name :: rest =>
    match t.item? done with
    | some .directory => t.reach (done ++ [name]) rest
    | some (.file _) => .error .notADirectory
    | none => .error .notFound

/-- Whether something stands at a place. -/
def hasItem (t : FileTree) (path : FilePath) : Bool := (t.reach [] path).isOk

/-- The contents of a file. -/
def read (t : FileTree) (path : FilePath) : Except FileFault Bytes :=
  match t.reach [] path with
  | .ok (.file contents) => .ok contents
  | .ok .directory => .error .isADirectory
  | .error fault => .error fault

/-- Makes the directories that are missing on the way from `done` along the names `rest`. -/
def makeDirectoriesFrom (t : FileTree) (done : FilePath) : FilePath → Except FileFault FileTree
  | [] => .ok t
  | name :: rest =>
    let here := done ++ [name]
    match t.item? here with
    | some .directory => t.makeDirectoriesFrom here rest
    | some (.file _) => .error (if rest = [] then .alreadyExists else .notADirectory)
    | none => (t.put here .directory).makeDirectoriesFrom here rest

/-- Makes a directory together with those on the way to it. -/
def makeDirectories (t : FileTree) (path : FilePath) : Except FileFault FileTree :=
  t.makeDirectoriesFrom [] path

/-- Writes a file, in place of the one that was there. -/
def write (t : FileTree) (path : FilePath) (contents : Bytes) : Except FileFault FileTree :=
  match t.reach [] path with
  | .ok .directory => .error .isADirectory
  | .ok (.file _) => .ok (t.put path (.file contents))
  -- A file that is missing is made, but only where its directory is there.
  | .error .notFound =>
    match t.reach [] path.dropLast with
    | .ok .directory => .ok (t.put path (.file contents))
    | .ok (.file _) => .error .notADirectory
    | .error fault => .error fault
  | .error fault => .error fault

end FileTree
end AudioLink
