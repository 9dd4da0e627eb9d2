import AudioLink.Files.Tree
import Mathlib.Data.List.Basic

/-
What stands in a tree after directories were made and a file was written.

A tree is told by what stands at each of its places. Making a directory, with those on the way to it,
changes nothing but what was missing on that way, and works unless a file stands there; the new tree
`Paves` the way. Reading looks along a path, so it finds what stands at a place only if the place can
be reached. In a tree that `IsRooted` everything can, and then what is found at a place depends on
the place alone, however many directories were made elsewhere.
-/
set_option autoImplicit false

namespace AudioLink
namespace FileTree

variable {t t' : FileTree} {path dir place done rest : FilePath} {name : String} {contents : Bytes}

/-! ## Looking along a path -/

@[simp] theorem item?_nil (t : FileTree) : t.item? [] = some .directory := rfl

theorem ne_nil_of_item? (h : t.item? place ≠ some .directory) : place ≠ [] := by
  rintro rfl
  exact h (item?_nil t)

/-- Nothing is found behind a place where nothing stands. -/
theorem reach_of_none (h : t.item? done = none) (rest : FilePath) :
    t.reach done rest = .error .notFound := by
  cases rest with
  | nil => rw [reach, h]
  | cons name rest => rw [reach, h]

/-- Behind a directory, looking goes on. -/
theorem reach_of_directory (h : t.item? done = some .directory) (name : String) (rest : FilePath) :
    t.reach done (name :: rest) = t.reach (done ++ [name]) rest := by
  rw [reach, h]

theorem reach_append (h : ∀ place, place <+: dir → t.item? (done ++ place) = some .directory)
    (name : String) : t.reach done (dir ++ [name]) =
      (t.item? (done ++ dir ++ [name])).elim (.error .notFound) .ok := by
  have hdone : t.item? done = some .directory := by
    have hfirst := h [] List.nil_prefix
    rwa [List.append_nil] at hfirst
  induction dir generalizing done with
  | nil =>
    rw [List.nil_append, reach_of_directory hdone, reach, List.append_nil]
    cases t.item? (done ++ [name]) with
    | none => rfl
    | some item => rfl
  | cons first dir ih =>
    have hbehind (place : FilePath) (hplace : place <+: dir) :
        t.item? (done ++ [first] ++ place) = some .directory := by
      rw [← List.append_cons]
      exact h (first :: place) (List.cons_prefix_cons.mpr ⟨rfl, hplace⟩)
    have hfirst := hbehind [] List.nil_prefix
    rw [List.append_nil] at hfirst
    rw [List.cons_append, reach_of_directory hdone, ih hbehind hfirst, ← List.append_cons]

/-- What stands at the end of a path is found there if the way to it is made of directories. -/
theorem reach_of_way (h : ∀ place, place <+: path.dropLast → t.item? place = some .directory) :
    t.reach [] path = (t.item? path).elim (.error .notFound) .ok := by
  rcases List.eq_nil_or_concat' path with rfl | ⟨dir, name, rfl⟩
  · rfl
  · rw [List.dropLast_concat] at h
    exact reach_append h name

/-- Everything stands in a directory. -/
def IsRooted (t : FileTree) : Prop :=
  ∀ place name, t.item? (place ++ [name]) ≠ none → t.item? place = some .directory

theorem isRooted_empty : empty.IsRooted := by
  intro place name h
  exact absurd (by simp [item?, empty]) h

theorem item?_put (t : FileTree) (place other : FilePath) (item : FileItem) (hplace : place ≠ []) :
    (t.put place item).item? other = if other = place then some item else t.item? other := by
  by_cases heq : other = place
  · rw [heq, if_pos rfl, item?_put_self t place item hplace]
  · rw [if_neg heq, item?_put_of_ne t item heq]

/-- An item is put into a directory, but not in the place of one. -/
theorem IsRooted.put (ht : t.IsRooted) (dir : FilePath) (name : String) (item : FileItem)
    (hdir : t.item? dir = some .directory) (hplace : t.item? (dir ++ [name]) ≠ some .directory) :
    (t.put (dir ++ [name]) item).IsRooted := by
  have hput (place : FilePath) : (t.put (dir ++ [name]) item).item? place =
      if place = dir ++ [name] then some item else t.item? place :=
    t.item?_put _ _ _ (by simp)
  have hkept (place : FilePath) (hdirectory : t.item? place = some .directory) :
      (t.put (dir ++ [name]) item).item? place = some .directory := by
    rw [hput, if_neg, hdirectory]
    rintro rfl
    exact hplace hdirectory
  intro place other hne
  by_cases heq : place ++ [other] = dir ++ [name]
  · rw [(List.append_inj' heq rfl).1]
    exact hkept dir hdir
  · rw [hput, if_neg heq] at hne
    exact hkept place (ht place other hne)

/-! ## Making directories -/

/-- In the second tree the way to `dir` is made of directories, and otherwise it is the first tree:
only what was missing on this way is new. -/
structure Paves (t t' : FileTree) (dir : FilePath) : Prop where
  item? : ∀ place, t'.item? place = t.item? place ∨
    (t.item? place = none ∧ t'.item? place = some .directory ∧ place <+: dir)
  way : ∀ place, place <+: dir → t'.item? place = some .directory

namespace Paves

variable (h : t.Paves t' dir)
include h

/-- What stood somewhere still stands there. -/
theorem kept {item : FileItem} (hitem : t.item? place = some item) :
    t'.item? place = some item := by
  rcases h.item? place with hsame | ⟨hnone, -⟩
  · rw [hsame, hitem]
  · exact absurd (hnone.symm.trans hitem) nofun

/-- Off the way nothing is new. -/
theorem same (hplace : ¬ place <+: dir) : t'.item? place = t.item? place :=
  (h.item? place).resolve_right fun hmade => hplace hmade.2.2

/-- What stands at the end of a path is as before, once the way to it is paved. -/
theorem same_end (hdir : dir = path.dropLast) : t'.item? path = t.item? path := by
  rcases List.eq_nil_or_concat' path with rfl | ⟨above, name, rfl⟩
  · rfl
  · refine h.same fun hprefix => ?_
    rw [hdir, List.dropLast_concat] at hprefix
    have hlength := hprefix.length_le
    rw [List.length_append, List.length_singleton] at hlength
    omega

/-- There are no new files. -/
theorem file_iff :
    t'.item? place = some (.file contents) ↔ t.item? place = some (.file contents) := by
  refine ⟨fun hfile => ?_, h.kept⟩
  rcases h.item? place with hsame | ⟨-, hmade, -⟩
  · rw [← hsame, hfile]
  · exact absurd (hmade.symm.trans hfile) nofun

theorem isRooted (ht : t.IsRooted) : t'.IsRooted := by
  intro place name hne
  rcases h.item? (place ++ [name]) with hsame | ⟨-, -, hway⟩
  · exact h.kept (ht place name (hsame ▸ hne))
  · exact h.way place ((List.prefix_append place [name]).trans hway)

/-- A place where nothing is new is found as before: the directories that are new lead to nothing
else. -/
theorem reach_eq (ht : t.IsRooted) (hsame : t'.item? (done ++ rest) = t.item? (done ++ rest)) :
    t'.reach done rest = t.reach done rest := by
  induction rest generalizing done with
  | nil =>
    rw [List.append_nil] at hsame
    rw [reach, reach, hsame]
  | cons name rest ih =>
    rw [List.append_cons] at hsame
    rcases h.item? done with hdone | ⟨hnone, hmade, -⟩
    · rw [reach, reach, hdone]
      cases t.item? done with
      | none => rfl
      | some item =>
        cases item with
        | directory => exact ih hsame
        | file contents => rfl
    · -- The directory is new. In the old tree nothing stood there, and so nothing below either.
      have hmissing : t.item? (done ++ [name]) = none := by
        by_contra hne
        exact absurd (hnone.symm.trans (ht done name hne)) nofun
      rw [reach_of_none hnone, reach_of_directory hmade, ih hsame, reach_of_none hmissing]

theorem read_eq (ht : t.IsRooted) (hsame : t'.item? place = t.item? place) :
    t'.read place = t.read place := by
  have hreach : t'.reach [] place = t.reach [] place := h.reach_eq ht hsame
  rw [read, read, hreach]

theorem hasItem_eq (ht : t.IsRooted) (hsame : t'.item? place = t.item? place) :
    t'.hasItem place = t.hasItem place := by
  have hreach : t'.reach [] place = t.reach [] place := h.reach_eq ht hsame
  rw [hasItem, hasItem, hreach]

end Paves

/-- What making directories comes to, from a place that can be reached: the way is paved, or a file
is in the way. -/
theorem makeDirectoriesFrom_cases (rest : FilePath)
    (hdone : ∀ place, place <+: done → t.item? place = some .directory) :
    (∃ t', t.makeDirectoriesFrom done rest = .ok t' ∧ t.Paves t' (done ++ rest)) ∨
      ∃ place contents fault, place <+: done ++ rest ∧ t.item? place = some (.file contents) ∧
        t.makeDirectoriesFrom done rest = .error fault := by
  -- Each name makes a new tree and lengthens the way behind it, so both are general; what the
  -- induction needs of them is only that this way is made of directories.
  induction rest generalizing t done with
  | nil =>
    rw [List.append_nil]
    exact .inl ⟨t, rfl, fun place => .inl rfl, hdone⟩
  | cons name rest ih =>
    have hhere (t' : FileTree) (hkept : ∀ place, place <+: done → t'.item? place = some .directory)
        (hnew : t'.item? (done ++ [name]) = some .directory) :
        ∀ place, place <+: done ++ [name] → t'.item? place = some .directory := by
      intro place hplace
      rcases List.prefix_concat_iff.mp hplace with rfl | hplace
      · exact hnew
      · exact hkept place hplace
    rw [List.append_cons, makeDirectoriesFrom]
    cases hitem : t.item? (done ++ [name]) with
    | some item =>
      cases item with
      | directory => exact ih (hhere t hdone hitem)
      | file contents =>
        exact .inr ⟨done ++ [name], contents, _, List.prefix_append _ _, hitem, rfl⟩
    | none =>
      have hne : done ++ [name] ≠ [] := by simp
      have hput (place : FilePath) : (t.put (done ++ [name]) .directory).item? place =
          if place = done ++ [name] then some .directory else t.item? place :=
        t.item?_put _ _ _ hne
      have hkept (place : FilePath) (hplace : place <+: done) :
          (t.put (done ++ [name]) .directory).item? place = some .directory := by
        rw [hput, hdone place hplace, ite_self]
      have hnew : (t.put (done ++ [name]) .directory).item? (done ++ [name]) = some .directory := by
        rw [hput, if_pos rfl]
      rcases ih (hhere _ hkept hnew) with
        ⟨t', hok, hpaves⟩ | ⟨place, contents, fault, hway, hfile, hfault⟩
      · -- What is new behind the next directory is new, and so is this directory itself.
        refine .inl ⟨t', hok, fun place => ?_, hpaves.way⟩
        have hplace := hpaves.item? place
        rw [hput] at hplace
        by_cases heq : place = done ++ [name]
        · subst heq
          exact .inr ⟨hitem, hpaves.kept hnew, List.prefix_append _ _⟩
        · rwa [if_neg heq] at hplace
      · -- The file that is in the way is not the directory that was just made.
        rw [hput] at hfile
        by_cases heq : place = done ++ [name]
        · rw [if_pos heq] at hfile
          cases hfile
        · rw [if_neg heq] at hfile
          exact .inr ⟨place, contents, fault, hway, hfile, hfault⟩

theorem makeDirectories_cases (t : FileTree) (dir : FilePath) :
    (∃ t', t.makeDirectories dir = .ok t' ∧ t.Paves t' dir) ∨
      ∃ place contents fault, place <+: dir ∧ t.item? place = some (.file contents) ∧
        t.makeDirectories dir = .error fault := by
  refine t.makeDirectoriesFrom_cases dir fun place hplace => ?_
  rw [List.prefix_nil.mp hplace, item?_nil]

/-! ## Files -/

section Way

variable (h : ∀ place, place <+: path.dropLast → t.item? place = some .directory)
include h

/-- The directory at the end of the way is found. -/
theorem reach_dropLast : t.reach [] path.dropLast = .ok .directory := by
  have habove (place : FilePath) (hplace : place <+: path.dropLast.dropLast) :
      t.item? place = some .directory :=
    h place (hplace.trans (List.dropLast_prefix _))
  rw [reach_of_way habove, h _ List.prefix_rfl]
  rfl

/-- A file is written where the way is made of directories, unless a directory stands there. -/
theorem write_of_way (contents : Bytes) : t.write path contents =
    if t.item? path = some .directory then .error .isADirectory
    else .ok (t.put path (.file contents)) := by
  rw [write, reach_of_way h]
  cases t.item? path with
  | none =>
    rw [if_neg nofun, reach_dropLast h]
    rfl
  | some item =>
    cases item with
    | directory => rfl
    | file old =>
      rw [if_neg (by simp)]
      rfl

end Way

/-- Whether a file with these contents stands at the end of a path, and is found there. -/
structure Holds (t : FileTree) (path : FilePath) (contents : Bytes) : Prop where
  way : ∀ place, place <+: path.dropLast → t.item? place = some .directory
  file : t.item? path = some (.file contents)

theorem Holds.read (h : t.Holds path contents) : t.read path = .ok contents := by
  rw [FileTree.read, reach_of_way h.way, h.file]
  rfl

theorem Holds.hasItem (h : t.Holds path contents) : t.hasItem path = true := by
  rw [FileTree.hasItem, reach_of_way h.way, h.file]
  rfl

/-- Whether reads and writes of a path work: no file stands on the way to it, and at its end no
directory. -/
structure Serves (t : FileTree) (path : FilePath) : Prop where
  way : ∀ place, place <+: path.dropLast → ∀ contents, t.item? place ≠ some (.file contents)
  place : t.item? path ≠ some .directory

end FileTree
end AudioLink
