import AudioLink.Config.Store
import AudioLink.Proofs.Config.Toml
import AudioLink.Proofs.Files.Tree

/-
Session files over any number of saves and loads.

A save makes the directories on the way to its file, then the text, and only then touches the file:
`Saves` are the four ways in which this can end. Of what stood in the tree before, nothing is ever
replaced but the file of a save that works, so a file holds the configuration that was saved last,
and a configuration without a text costs no file its contents.
-/
set_option autoImplicit false

namespace AudioLink

/-! ## Texts as bytes -/

namespace Bytes

theorem toList_loop (bytes : ByteArray) (i : Nat) (read : List UInt8) :
    ByteArray.toList.loop bytes i read = read.reverse ++ bytes.data.toList.drop i := by
  fun_induction ByteArray.toList.loop bytes i read with
  | case1 i read hi ih =>
    have hget : bytes.get! i = bytes.data.toList[i] := by
      rw [Array.getElem_toList]
      exact getElem!_pos bytes.data i hi
    rw [ih, List.drop_eq_getElem_cons hi, ← hget, List.reverse_cons, List.append_assoc]
    rfl
  | case2 i read hi =>
    rw [List.drop_of_length_le (Nat.le_of_not_lt hi), List.append_nil]

/-- The bytes of a text are the text again. -/
theorem toText?_ofText (text : String) : toText? (ofText text) = some text := by
  have hbytes : (⟨(ofText text).toArray⟩ : ByteArray) = text.toUTF8 := by
    rw [ofText, ByteArray.toList, toList_loop, List.reverse_nil, List.nil_append, List.drop_zero,
      Array.toArray_toList]
  rw [toText?, hbytes]
  exact dif_pos text.isValidUTF8

end Bytes

namespace SessionConfig

variable {t t' : FileTree} {path place : FilePath} {c : SessionConfig} {text : String}

/-! ## One save -/

/-- How a save ends, and in which tree. -/
inductive Saves (t : FileTree) (path : FilePath) (c : SessionConfig) :
    Except Error Unit × FileTree → Prop
  /-- A file is in the way. -/
  | blocked {place : FilePath} {contents : Bytes} (fault : FileFault)
      (hway : place <+: path.dropLast) (hfile : t.item? place = some (.file contents)) :
      Saves t path c (.error (fileError fault), t)
  /-- The configuration has no text. -/
  | unwritten {paved : FileTree} {e : Error} (hpaves : t.Paves paved path.dropLast)
      (htext : c.toToml = .error e) : Saves t path c (.error e, paved)
  /-- A directory is in the place of the file. -/
  | occupied {paved : FileTree} (hpaves : t.Paves paved path.dropLast)
      (hdirectory : t.item? path = some .directory) :
      Saves t path c (.error (fileError .isADirectory), paved)
  | worked {paved : FileTree} {text : String} (hpaves : t.Paves paved path.dropLast)
      (htext : c.toToml = .ok text) (hplace : t.item? path ≠ some .directory) :
      Saves t path c (.ok (), paved.put path (.file (Bytes.ofText text)))

theorem saves (t : FileTree) (path : FilePath) (c : SessionConfig) :
    Saves t path c (save t path c) := by
  rw [save]
  rcases t.makeDirectories_cases path.dropLast with
    ⟨paved, hpaved, hpaves⟩ | ⟨place, contents, fault, hway, hfile, hfault⟩
  · rw [hpaved]
    dsimp only
    cases htext : c.toToml with
    | error e => exact .unwritten hpaves htext
    | ok text =>
      dsimp only
      rw [FileTree.write_of_way hpaves.way, hpaves.same_end rfl]
      by_cases hplace : t.item? path = some .directory
      · rw [if_pos hplace]
        exact .occupied hpaves hplace
      · rw [if_neg hplace]
        exact .worked hpaves htext hplace
  · rw [hfault]
    exact .blocked fault hway hfile

namespace Saves

variable {result : Except Error Unit × FileTree} (h : Saves t path c result)
include h

/-- Where reads and writes work, a configuration with a text is saved. -/
theorem holds (hserves : t.Serves path) (htext : c.toToml = .ok text) :
    result.1 = .ok () ∧ result.2.Holds path (Bytes.ofText text) := by
  cases h with
  | blocked fault hway hfile => exact absurd hfile (hserves.way _ hway _)
  | unwritten hpaves hnone => exact absurd (hnone.symm.trans htext) nofun
  | occupied hpaves hdirectory => exact absurd hdirectory hserves.place
  | @worked paved text' hpaves htext' hplace =>
    obtain rfl : text' = text := Except.ok.inj (htext'.symm.trans htext)
    have hput (place : FilePath) := paved.item?_put path place (.file (Bytes.ofText text'))
      (FileTree.ne_nil_of_item? hplace)
    refine ⟨rfl, fun place hway => ?_, ?_⟩
    · -- A place on the way is a directory, and the file is not put in the place of one.
      have hne : place ≠ path := by
        rintro rfl
        exact hplace ((hpaves.same_end rfl).symm.trans (hpaves.way place hway))
      rw [hput, if_neg hne, hpaves.way place hway]
    · rw [hput, if_pos rfl]

/-- A save works only where reads and writes do. -/
theorem serves (hok : result.1 = .ok ()) : t.Serves path := by
  cases h with
  | worked hpaves htext hplace =>
    refine ⟨fun place hway contents hfile => ?_, hplace⟩
    exact absurd ((hpaves.way place hway).symm.trans (hpaves.kept hfile)) nofun
  | blocked fault hway hfile => exact absurd hok nofun
  | unwritten hpaves htext => exact absurd hok nofun
  | occupied hpaves hdirectory => exact absurd hok nofun

/-- What stands somewhere is kept, but for the file of a save that works. -/
theorem kept {item : FileItem} (hitem : t.item? place = some item)
    (hspared : item = .directory ∨ (place = path → result.1 ≠ .ok ())) :
    result.2.item? place = some item := by
  cases h with
  | blocked fault hway hfile => exact hitem
  | unwritten hpaves htext => exact hpaves.kept hitem
  | occupied hpaves hdirectory => exact hpaves.kept hitem
  | @worked paved text' hpaves htext hplace =>
    have hne : place ≠ path := by
      rintro rfl
      rcases hspared with rfl | hspared
      · exact hplace hitem
      · exact hspared rfl rfl
    rw [paved.item?_put _ _ _ (FileTree.ne_nil_of_item? hplace), if_neg hne, hpaves.kept hitem]

theorem isRooted (ht : t.IsRooted) : result.2.IsRooted := by
  cases h with
  | blocked fault hway hfile => exact ht
  | unwritten hpaves htext => exact hpaves.isRooted ht
  | occupied hpaves hdirectory => exact hpaves.isRooted ht
  | @worked paved text' hpaves htext hplace =>
    -- A path that can be saved to is not the root, so it has a directory and a name.
    rw [← hpaves.same_end rfl] at hplace
    obtain ⟨dir, name, rfl⟩ :=
      (List.eq_nil_or_concat' path).resolve_left (FileTree.ne_nil_of_item? hplace)
    rw [List.dropLast_concat] at hpaves
    exact (hpaves.isRooted ht).put dir name _ (hpaves.way dir List.prefix_rfl) hplace

/-- Without a text there is nothing to save. -/
theorem ne_ok {e : Error} (htext : c.toToml = .error e) : result.1 ≠ .ok () := by
  cases h with
  | worked hpaves hsome hplace => exact absurd (htext.symm.trans hsome) nofun
  | blocked fault hway hfile => exact nofun
  | unwritten hpaves hnone => exact nofun
  | occupied hpaves hdirectory => exact nofun

/-- A save that fails for want of a text makes directories at most. -/
theorem paves_of_toml {reason : String} (hreason : result.1 = .error (.toml reason)) :
    t.Paves result.2 path.dropLast := by
  cases h with
  | blocked fault hway hfile => exact absurd hreason nofun
  | unwritten hpaves htext => exact hpaves
  | occupied hpaves hdirectory => exact absurd hreason nofun
  | worked hpaves htext hplace => exact absurd hreason nofun

end Saves

/-! ## Loading -/

theorem load_of_holds (hholds : t.Holds path (Bytes.ofText text)) (hread : ofToml text = .ok c) :
    load t path = .ok c := by
  rw [load, hholds.read]
  dsimp only
  rw [Bytes.toText?_ofText]
  exact hread

theorem loadOrDefault_of_holds (hholds : t.Holds path (Bytes.ofText text))
    (hread : ofToml text = .ok c) : loadOrDefault t path = .ok c := by
  rw [loadOrDefault, hholds.hasItem, if_pos rfl, load_of_holds hholds hread]

/-! ## Any number of saves and loads -/

/-- An operation on session files. -/
inductive FileOp where
  | save (path : FilePath) (c : SessionConfig)
  | load (path : FilePath)
  | loadOrDefault (path : FilePath)

/-- The tree after an operation. -/
def FileOp.after (t : FileTree) : FileOp → FileTree
  | .save path c => (SessionConfig.save t path c).2
  | .load _ | .loadOrDefault _ => t

/-- The tree after operations in a row. -/
def treeAfter (t : FileTree) (ops : List FileOp) : FileTree := ops.foldl FileOp.after t

/-- Whether none of the operations is a save to a path that works. -/
def Spares (path : FilePath) (t : FileTree) (ops : List FileOp) : Prop :=
  ∀ before c after, ops = before ++ .save path c :: after →
    (save (treeAfter t before) path c).1 ≠ .ok ()

theorem spares_cons {op : FileOp} {ops : List FileOp} :
    Spares path t (op :: ops) ↔
      (∀ c, op = .save path c → (save t path c).1 ≠ .ok ()) ∧ Spares path (op.after t) ops := by
  constructor
  · intro h
    refine ⟨fun c hop => h [] c ops (by rw [hop]; rfl), fun before c after hops => ?_⟩
    exact h (op :: before) c after (by rw [hops]; rfl)
  · rintro ⟨hfirst, hrest⟩ before c after hops
    cases before with
    | nil =>
      obtain ⟨hop, -⟩ := List.cons.inj hops
      exact hfirst c hop
    | cons op' before =>
      obtain ⟨rfl, htail⟩ := List.cons.inj hops
      exact hrest before c after htail

theorem isRooted_after (ht : t.IsRooted) (op : FileOp) : (op.after t).IsRooted := by
  cases op with
  | save path c => exact (saves t path c).isRooted ht
  | load path | loadOrDefault path => exact ht

theorem isRooted_treeAfter (ht : t.IsRooted) (ops : List FileOp) : (treeAfter t ops).IsRooted := by
  induction ops generalizing t with
  | nil => exact ht
  | cons op ops ih => exact ih (isRooted_after ht op)

/-- A file stays what it is until a save to its path works. -/
theorem holds_after {contents : Bytes} (h : t.Holds path contents) {op : FileOp}
    (hspared : ∀ c, op = .save path c → (save t path c).1 ≠ .ok ()) :
    (op.after t).Holds path contents := by
  cases op with
  | load path | loadOrDefault path => exact h
  | save other c =>
    refine ⟨fun place hway => (saves t other c).kept (h.way place hway) (.inl rfl), ?_⟩
    refine (saves t other c).kept h.file (.inr ?_)
    rintro rfl
    exact hspared c rfl

theorem holds_treeAfter {contents : Bytes} (h : t.Holds path contents) {ops : List FileOp}
    (hspares : Spares path t ops) : (treeAfter t ops).Holds path contents := by
  induction ops generalizing t with
  | nil => exact h
  | cons op ops ih =>
    obtain ⟨hspared, hspares⟩ := spares_cons.mp hspares
    exact ih (holds_after h hspared) hspares

/-- Whatever has been saved and loaded before, a configuration that fits the format is saved exactly
if reads and writes of its path work, and then the path loads exactly this configuration until another
save to it works. And a save that fails for want of a text leaves every file as it is, and no new
one, so that whatever is not on the way to its path loads what it loaded before. -/
theorem saved_until_next (ht : t.IsRooted) (before : List FileOp) (path : FilePath)
    (c : SessionConfig) :
    let tree := treeAfter t before
    let result := save tree path c
    ((∀ d ∈ c.durations, d.IsWholeBelow (2 ^ 63)) → (∀ f ∈ c.log.filter, IsUnescaped f) →
      (result.1 = .ok () ↔ tree.Serves path) ∧
      (tree.Serves path → ∀ later, Spares path result.2 later →
        load (treeAfter result.2 later) path = .ok c ∧
        loadOrDefault (treeAfter result.2 later) path = .ok c)) ∧
    (∀ reason, result.1 = .error (.toml reason) →
      (∀ place contents, result.2.item? place = some (.file contents) ↔
        tree.item? place = some (.file contents)) ∧
      ∀ place, place = path ∨ ¬ place <+: path.dropLast →
        load result.2 place = load tree place ∧
        loadOrDefault result.2 place = loadOrDefault tree place) := by
  intro tree result
  have hsaves : Saves tree path c result := saves tree path c
  refine ⟨fun hwhole hfilter => ?_, fun reason hreason => ?_⟩
  · obtain ⟨text, htext, hread⟩ := exists_text hwhole fun f hf => (hfilter f hf).isPlainText
    refine ⟨⟨hsaves.serves, fun hserves => (hsaves.holds hserves htext).1⟩, ?_⟩
    intro hserves later hspares
    have hlater := holds_treeAfter (hsaves.holds hserves htext).2 hspares
    exact ⟨load_of_holds hlater hread, loadOrDefault_of_holds hlater hread⟩
  · -- The only thing new is directories on the way. They could be found where nothing was found
    -- before, but only at places on this way, and none of these is the path.
    have hpaves := hsaves.paves_of_toml hreason
    refine ⟨fun place contents => hpaves.file_iff, fun place hplace => ?_⟩
    have hsame : result.2.item? place = tree.item? place := by
      rcases hplace with rfl | hoff
      · exact hpaves.same_end rfl
      · exact hpaves.same hoff
    have hrooted : tree.IsRooted := isRooted_treeAfter ht before
    have hload : load result.2 place = load tree place := by
      rw [load, load, hpaves.read_eq hrooted hsame]
    refine ⟨hload, ?_⟩
    rw [loadOrDefault, loadOrDefault, hpaves.hasItem_eq hrooted hsame, hload]

/-- A configuration with a span of 2^63 milliseconds. -/
def unwritable : SessionConfig where
  sender := { packetLength := .ofMillis 9223372036854775808 }

/-- In the place of a file that is no text, `studio` is saved; a save that fails and a save of
another file come behind. -/
theorem saved_until_next_studio :
    let tree := (FileTree.empty.put ["d"] .directory).put ["d", "s.toml"] (.file [255])
    let later : List FileOp := [.save ["d", "s.toml"] unwritable, .save ["d", "t.toml"] {}]
    (save tree ["d", "s.toml"] studio).1 = .ok () ∧
      load (treeAfter (save tree ["d", "s.toml"] studio).2 later) ["d", "s.toml"] = .ok studio := by
  intro tree later
  have hrooted : tree.IsRooted := by
    have hdirectory : (FileTree.empty.put ["d"] .directory).IsRooted :=
      FileTree.isRooted_empty.put [] "d" .directory rfl (by decide)
    exact hdirectory.put ["d"] "s.toml" (.file [255]) (by decide) (by decide)
  have hwhole : ∀ d ∈ studio.durations, d.IsWholeBelow (2 ^ 63) := by decide +kernel
  have hfilter : ∀ f ∈ studio.log.filter, IsUnescaped f := by
    intro f hf
    obtain rfl : "warn,audio_peer=debug" = f := Option.some.inj hf
    decide
  have hserves : tree.Serves ["d", "s.toml"] := by
    refine ⟨fun place hplace contents => ?_, by decide⟩
    have hplaces : place = [] ∨ place = ["d"] := by
      simpa [List.prefix_cons_iff] using hplace
    rcases hplaces with rfl | rfl
    · exact nofun
    · exact nofun
  obtain ⟨hok, hlater⟩ := (saved_until_next hrooted [] ["d", "s.toml"] studio).1 hwhole hfilter
  -- The first later save fails before it writes, and the second one goes to another place.
  have hspares : Spares ["d", "s.toml"] (save tree ["d", "s.toml"] studio).2 later := by
    refine spares_cons.mpr ⟨fun c hc => ?_, spares_cons.mpr ⟨fun c hc => ?_, ?_⟩⟩
    · obtain ⟨-, rfl⟩ := FileOp.save.inj hc
      have htext : unwritable.toToml = .error notWritten := by decide +kernel
      exact (saves _ _ unwritable).ne_ok htext
    · exact absurd (FileOp.save.inj hc).1 (by decide)
    · exact fun before c after h => absurd h (by simp)
  exact ⟨hok.mpr hserves, (hlater hserves later hspares).1⟩

end SessionConfig
end AudioLink
