import AudioLink.Proofs.Toml.Pages
import Mathlib.Data.List.Forall2

/-
Sheets that have been edited by hand.

An edit of a page takes out some of its lines, brings the others into another order within their
tables, and puts lines with new keys among them. What it makes of a table is told by looking up
names, so the order of the lines is no part of it: a value that was kept stands under its name, one
that was taken out does not, and of the names that may not be added none is there that was not there
before. This holds of each table by its own lines, and of the document by going through its tables.
-/
set_option autoImplicit false

namespace AudioLink.Toml

/-! ## Edits -/

section Edits

variable (kept : List String → Bool) (reserved : List String → String → Prop)

/-- Lines that can be added to the table at a path: the names that their keys begin with are not
reserved, and none of the keys is another one or the beginning of it. -/
structure AreNew (path : List String) (added : List KeyLine) : Prop where
  read : ∀ l ∈ added, l.IsRead
  unreserved : ∀ l ∈ added, ∃ name ∈ l.key.head?, ¬ reserved path name
  apart : (added.map KeyLine.key).Pairwise Apart

/-- The lines of the table at a path after an edit: those with the keys that are kept and new ones,
in any order. -/
def AreEdited (path : List String) (lines lines' : List KeyLine) : Prop :=
  ∃ added, AreNew reserved path added ∧
    lines'.Perm (lines.filter (fun l => kept (path ++ l.key)) ++ added)

/-- A table after an edit. -/
structure Passage.IsEditOf (edited original : Passage) : Prop where
  path : edited.path = original.path
  lines : AreEdited kept reserved original.path original.lines edited.lines

/-- A page after an edit, which leaves the headers alone. -/
structure Page.IsEditOf (edited original : Page) : Prop where
  front : AreEdited kept reserved [] original.front edited.front
  passages : List.Forall₂ (Passage.IsEditOf kept reserved) edited.passages original.passages

/-- The edit that puts new lines in front of those that are kept. -/
def Page.edit (added : List String → List KeyLine) (page : Page) : Page where
  front := added [] ++ page.front.filter fun l => kept ([] ++ l.key)
  passages := page.passages.map fun p =>
    ⟨p.path, added p.path ++ p.lines.filter fun l => kept (p.path ++ l.key)⟩

variable {kept reserved}

theorem AreNew.nil {path : List String} : AreNew reserved path [] :=
  ⟨List.forall_mem_nil _, List.forall_mem_nil _, .nil⟩

/-- Lines that are given as texts. -/
theorem AreNew.ofTexts {path : List String} {texts : List String} {keys : List (List String)}
    (hkeys : (KeyLine.ofTexts texts).map KeyLine.key = keys)
    (hunreserved : ∀ key ∈ keys, ∃ name ∈ key.head?, ¬ reserved path name)
    (hapart : keys.Pairwise Apart) : AreNew reserved path (KeyLine.ofTexts texts) where
  read _ hl := KeyLine.isRead_of_mem_ofTexts hl
  unreserved _ hl := hunreserved _ (hkeys ▸ List.mem_map_of_mem hl)
  apart := hkeys ▸ hapart

theorem Page.isEditOf_edit {added : List String → List KeyLine}
    (hadded : ∀ path, AreNew reserved path (added path)) (page : Page) :
    (page.edit kept added).IsEditOf kept reserved page where
  front := ⟨added [], hadded [], List.perm_append_comm⟩
  passages := by
    rw [edit, List.forall₂_map_left_iff]
    exact List.forall₂_same.mpr fun p _ =>
      ⟨rfl, added p.path, hadded p.path, List.perm_append_comm⟩

end Edits

/-! ## The lines of one table -/

section Lines

variable {kept : List String → Bool} {reserved : List String → String → Prop} {path : List String}

/-- What an edit has left of the values of a table. -/
structure Leaves (kept : List String → Bool) (reserved : List String → String → Prop)
    (path : List String) (values : List (String × Value)) (fields : Fields) : Prop where
  plain : ∀ name v, (name, v) ∈ values →
    fields.get? name = if kept (path ++ [name]) then some (.value v) else none
  missing : ∀ name, reserved path name → name ∉ values.map Prod.fst → fields.get? name = none
  nodup : (fields.map Prod.fst).Nodup

/-- The line of a value that was kept, or a new one. -/
theorem AreEdited.mem {entries : List Entry} {lines : List KeyLine}
    (h : AreEdited kept reserved path (entries.map KeyLine.ofEntry) lines) {l : KeyLine}
    (hl : l ∈ lines) : (∃ e ∈ entries, kept (path ++ [e.1]) = true ∧ l = .ofEntry e) ∨
      (l.IsRead ∧ ∃ name ∈ l.key.head?, ¬ reserved path name) := by
  obtain ⟨added, hnew, hperm⟩ := h
  rcases List.mem_append.mp (hperm.mem_iff.mp hl) with hmem | hmem
  · obtain ⟨hmem, hkept⟩ := List.mem_filter.mp hmem
    obtain ⟨e, he, rfl⟩ := List.mem_map.mp hmem
    exact .inl ⟨e, he, hkept, rfl⟩
  · exact .inr ⟨hnew.read l hmem, hnew.unreserved l hmem⟩

theorem AreEdited.key_ne_nil {entries : List Entry} {lines : List KeyLine}
    (h : AreEdited kept reserved path (entries.map KeyLine.ofEntry) lines) {l : KeyLine}
    (hl : l ∈ lines) : l.key ≠ [] := by
  intro hnil
  rcases h.mem hl with ⟨e, -, -, rfl⟩ | ⟨-, name, hname, -⟩
  · exact List.cons_ne_nil _ _ hnil
  · rw [hnil] at hname
    exact absurd hname nofun

/-- The keys of a table after an edit do not meet. -/
theorem AreEdited.apart {entries : List Entry} {lines : List KeyLine}
    (h : AreEdited kept reserved path (entries.map KeyLine.ofEntry) lines)
    (hnodup : (entries.map Prod.fst).Nodup) (hreserved : ∀ e ∈ entries, reserved path e.1) :
    (lines.map KeyLine.key).Pairwise Apart := by
  obtain ⟨added, hnew, hperm⟩ := h
  have hold : ((entries.map KeyLine.ofEntry).map KeyLine.key).Pairwise Apart := by
    rw [List.pairwise_map, List.pairwise_map]
    rw [List.Nodup, List.pairwise_map] at hnodup
    refine hnodup.imp fun hne => apart_of_head?_ne (List.cons_ne_nil _ _) fun heq => ?_
    exact hne (Option.some.inj heq).symm
  rw [(hperm.map KeyLine.key).pairwise_iff fun h => h.symm, List.map_append, List.pairwise_append]
  refine ⟨hold.sublist (List.filter_sublist.map _), hnew.apart, ?_⟩
  simp only [List.forall_mem_map]
  intro l hl l' hl'
  -- A key that was there begins with a reserved name, and a new one does not.
  obtain ⟨e, he, rfl⟩ := List.mem_map.mp (List.mem_filter.mp hl).1
  obtain ⟨name, hname, hfree⟩ := hnew.unreserved l' hl'
  refine apart_of_head?_ne (fun hnil => ?_) fun heq => ?_
  · rw [hnil] at hname
    exact absurd hname nofun
  · obtain rfl : e.1 = name := Option.some.inj (heq.symm.trans hname)
    exact hfree (hreserved e he)

/-- The lines of a table after an edit make what the edit leaves of its values. -/
theorem AreEdited.leaves {entries : List Entry} {lines : List KeyLine}
    (h : AreEdited kept reserved path (entries.map KeyLine.ofEntry) lines)
    (hnodup : (entries.map Prod.fst).Nodup) (hreserved : ∀ e ∈ entries, reserved path e.1) :
    ∃ fields, Fields.addPairs (lines.map KeyLine.pair) [] = some fields ∧
      Leaves kept reserved path (entries.map fun e => (e.1, e.2.value)) fields := by
  have hkeys : (lines.map KeyLine.pair).map Prod.fst = lines.map KeyLine.key := List.map_map
  have hfree : ∀ pair ∈ lines.map KeyLine.pair, Fields.IsFree pair.1 [] := by
    rw [List.forall_mem_map]
    exact fun l hl => Fields.isFree_nil (h.key_ne_nil hl)
  obtain ⟨fields, hadd, htakes⟩ :=
    Fields.exists_addPairs hfree (hkeys ▸ h.apart hnodup hreserved)
  -- A line whose key begins with a reserved name is the line of a value that was kept.
  have hhead : ∀ name, reserved path name → (∀ e ∈ entries, kept (path ++ [e.1]) = true →
      e.1 ≠ name) → fields.get? name = none := by
    intro name hname hother
    refine htakes.other name ?_
    rw [List.forall_mem_map]
    intro l hl heq
    rcases h.mem hl with ⟨e, he, hkept, rfl⟩ | ⟨-, name', hname', hfree⟩
    · exact hother e he hkept (Option.some.inj heq)
    · obtain rfl : name = name' := Option.some.inj (heq.symm.trans hname')
      exact hfree hname
  refine ⟨fields, hadd, ?_, ?_, htakes.nodup .nil⟩
  · intro name v hmem
    obtain ⟨e, he, heq⟩ := List.mem_map.mp hmem
    obtain ⟨rfl, rfl⟩ := Prod.mk.inj heq
    split
    · rename_i hkept
      obtain ⟨added, -, hperm⟩ := h
      refine htakes.value _ _ (List.mem_map.mpr ⟨.ofEntry e, hperm.mem_iff.mpr ?_, rfl⟩)
      exact List.mem_append_left _ (List.mem_filter.mpr ⟨List.mem_map_of_mem he, hkept⟩)
    · rename_i hkept
      refine hhead _ (hreserved e he) fun e' _ hkept' heq => hkept ?_
      rw [← heq, hkept']
  · intro name hname hnew
    refine hhead name hname fun e he _ heq => hnew ?_
    rw [← heq, List.map_map]
    exact List.mem_map_of_mem he

end Lines

/-! ## What is left of a value -/

/-- All names in the tables of a value are reserved. -/
inductive IsCovered (reserved : List String → String → Prop) : List String → Value → Prop where
  | plain {path : List String} {v : Value} (hplain : v.isTable = false) : IsCovered reserved path v
  | table {path : List String} {fields : List (String × Value)}
      (names : ∀ x ∈ fields, reserved path x.1)
      (inner : ∀ x ∈ fields, IsCovered reserved (path ++ [x.1]) x.2) :
      IsCovered reserved path (.table fields)

theorem IsCovered.names {reserved : List String → String → Prop} {path : List String}
    {fields : List (String × Value)} (h : IsCovered reserved path (.table fields)) :
    (∀ x ∈ fields, reserved path x.1) ∧ ∀ x ∈ fields, IsCovered reserved (path ++ [x.1]) x.2 := by
  cases h with
  | plain hplain => exact absurd hplain.symm Bool.false_ne_true
  | table names inner => exact ⟨names, inner⟩

/-- What is left of a table: its plain values as far as they are kept, all tables inside it, and no
reserved name that it did not have. -/
inductive Keeps (kept : List String → Bool) (reserved : List String → String → Prop) :
    List String → Value → Value → Prop where
  | table {path : List String} {fields fields' : List (String × Value)}
      (nodup : (fields'.map Prod.fst).Nodup)
      (plain : ∀ name v, (name, v) ∈ fields → v.isTable = false →
        Value.lookup name fields' = if kept (path ++ [name]) then some v else none)
      (there : ∀ name v, (name, v) ∈ fields → v.isTable = true →
        (Value.lookup name fields').isSome = true)
      (inner : ∀ name v v', (name, v) ∈ fields → v.isTable = true →
        Value.lookup name fields' = some v' → Keeps kept reserved (path ++ [name]) v v')
      (missing : ∀ name, reserved path name → name ∉ fields.map Prod.fst →
        Value.lookup name fields' = none) :
      Keeps kept reserved path (.table fields) (.table fields')

section Values

variable {kept : List String → Bool} {reserved : List String → String → Prop}

theorem lookup_fieldValues (name : String) (fields : Fields) :
    Value.lookup name (fieldValues fields) = (fields.get? name).map Node.toValue := by
  induction fields with
  | nil => rfl
  | cons x fields ih =>
    by_cases hx : x.1 = name
    · simp [fieldValues, Value.lookup, Fields.get?, hx]
    · simpa [fieldValues, Value.lookup, Fields.get?, hx] using ih

theorem map_fst_fieldValues (fields : Fields) :
    (fieldValues fields).map Prod.fst = fields.map Prod.fst := by
  induction fields with
  | nil => rfl
  | cons x fields ih => simp [fieldValues, ih]

/-- What an edit has left of a table, from what it has left of its values and of its tables. -/
theorem Leaves.keeps {path : List String} {fields : List (String × Value)} {own : Fields}
    {inner : List (String × Outline)} (hown : Leaves kept reserved path (plainFields fields) own)
    (hnodup : (fields.map Prod.fst).Nodup)
    (hnew : ∀ name ∈ inner.map Prod.fst, own.get? name = none)
    (hnames : inner.map Prod.fst = (innerOf fields).map Prod.fst)
    (hinner : ∀ name v, (name, v) ∈ fields → v.isTable = true →
      ∃ o, (name, o) ∈ inner ∧ Keeps kept reserved (path ++ [name]) v o.node.toValue) :
    Keeps kept reserved path (.table fields)
      (.table (fieldValues (own ++ Outline.nodes inner))) := by
  have hperm := perm_map_fst fields
  rw [← hnames] at hperm
  obtain ⟨hplainNodup, hinnerNodup, hapart⟩ := List.nodup_append.mp (hperm.nodup_iff.mpr hnodup)
  -- A name is looked up among the plain lines first, and then among the tables inside.
  have hlookup : ∀ name, Value.lookup name (fieldValues (own ++ Outline.nodes inner)) =
      ((own.get? name).or ((Outline.nodes inner).get? name)).map Node.toValue := by
    intro name
    rw [lookup_fieldValues, Fields.get?_append]
  have htable : ∀ name v, (name, v) ∈ fields → v.isTable = true → ∃ v',
      Value.lookup name (fieldValues (own ++ Outline.nodes inner)) = some v' ∧
        Keeps kept reserved (path ++ [name]) v v' := by
    intro name v hmem hv
    obtain ⟨o, ho, hkeeps⟩ := hinner name v hmem hv
    refine ⟨o.node.toValue, ?_, hkeeps⟩
    rw [hlookup, hnew name (List.mem_map_of_mem ho), Outline.get?_nodes_of_mem hinnerNodup ho]
    rfl
  -- In turn: different names, plain lines that are left, tables that are left, what they have in
  -- them, and names that are not there.
  refine .table ?_ ?_ ?_ ?_ ?_
  · rw [map_fst_fieldValues, List.map_append, Outline.map_fst_nodes, List.nodup_append]
    refine ⟨hown.nodup, hinnerNodup, ?_⟩
    rintro name hmem name' hmem' rfl
    exact Fields.get?_eq_none_iff.mp (hnew name hmem') hmem
  · intro name v hmem hv
    have hplain : (name, v) ∈ plainFields fields := by simp [plainFields, hmem, hv]
    have hfar : name ∉ inner.map Prod.fst := fun hmem' =>
      hapart name (List.mem_map_of_mem hplain) name hmem' rfl
    rw [hlookup, hown.plain name v hplain, Outline.get?_nodes_of_not_mem hfar, Option.or_none]
    split
    · rfl
    · rfl
  · intro name v hmem hv
    obtain ⟨v', hv', -⟩ := htable name v hmem hv
    rw [hv']
    rfl
  · intro name v v' hmem hv hv'
    obtain ⟨v'', hv'', hkeeps⟩ := htable name v hmem hv
    obtain rfl : v' = v'' := Option.some.inj (hv'.symm.trans hv'')
    exact hkeeps
  · intro name hname hmem
    rw [← hperm.mem_iff, List.mem_append, not_or] at hmem
    rw [hlookup, hown.missing name hname hmem.1, Outline.get?_nodes_of_not_mem hmem.2]
    rfl

/-! ## The tables of a page -/

/-- Passages that are an edit of a table under a path: they are read as an outline, and that makes
what is left of the table. -/
structure Builds (kept : List String → Bool) (reserved : List String → String → Prop)
    (path : List String) (v : Value) (passages : List Passage) (o : Outline) : Prop where
  sound : o.IsSound
  readable : ∀ p ∈ passages, p.IsReadable
  statements : passages.flatMap Passage.statements = o.statements path
  keeps : Keeps kept reserved path v o.node.toValue

/-- Passages that are an edit of the tables inside a table. -/
structure BuildAll (kept : List String → Bool) (reserved : List String → String → Prop)
    (path : List String) (fields : List (String × Value)) (passages : List Passage)
    (inner : List (String × Outline)) : Prop where
  sound : Outline.AreSound inner
  readable : ∀ p ∈ passages, p.IsReadable
  statements : passages.flatMap Passage.statements = Outline.innerStatements path inner
  names : inner.map Prod.fst = (innerOf fields).map Prod.fst
  keeps : ∀ name v, (name, v) ∈ fields → v.isTable = true →
    ∃ o, (name, o) ∈ inner ∧ Keeps kept reserved (path ++ [name]) v o.node.toValue

variable {path : List String} {fields : List (String × Value)} {passages : List Passage}
  {inner : List (String × Outline)}

/-- The own lines of a table agree with the tables inside it, and both together make what is left of
it. -/
theorem AreEdited.table {entries : List Entry} {lines : List KeyLine}
    (h : AreEdited kept reserved path (entries.map KeyLine.ofEntry) lines)
    (hvalues : entries.map (fun e => (e.1, e.2.value)) = plainFields fields)
    (hnodup : (fields.map Prod.fst).Nodup) (hreserved : ∀ x ∈ fields, reserved path x.1)
    (hinner : BuildAll kept reserved path fields passages inner) :
    Outline.Agree (lines.map KeyLine.pair) (inner.map Prod.fst) ∧
      Keeps kept reserved path (.table fields) (.table
        (fieldValues (Outline.ownFields (lines.map KeyLine.pair) ++ Outline.nodes inner))) := by
  have hnames : entries.map Prod.fst = (plainFields fields).map Prod.fst := by
    rw [← hvalues, List.map_map]
    rfl
  have hplain : ∀ e ∈ entries, reserved path e.1 := by
    intro e he
    have hmem : e.1 ∈ (plainFields fields).map Prod.fst := hnames ▸ List.mem_map_of_mem he
    obtain ⟨x, hx, hxe⟩ := List.mem_map.mp hmem
    exact hxe ▸ hreserved x (List.mem_filter.mp hx).1
  obtain ⟨own, hadd, hleaves⟩ := h.leaves (hnames ▸ nodup_plainFields hnodup) hplain
  have hown : Outline.ownFields (lines.map KeyLine.pair) = own := by
    rw [Outline.ownFields, hadd, Option.getD_some]
  rw [hvalues] at hleaves
  -- The names of the tables are reserved, so no line that was added gives them a value.
  have hperm := perm_map_fst fields
  rw [← hinner.names] at hperm
  obtain ⟨-, hinnerNodup, hfar⟩ := List.nodup_append.mp (hperm.nodup_iff.mpr hnodup)
  have hnew : ∀ name ∈ inner.map Prod.fst, own.get? name = none := by
    intro name hname
    obtain ⟨x, hx, rfl⟩ := List.mem_map.mp (hperm.mem_iff.mp (List.mem_append_right _ hname))
    exact hleaves.missing _ (hreserved x hx) fun hmem => hfar _ hmem _ hname rfl
  rw [hown]
  exact ⟨⟨hown ▸ hadd, hinnerNodup, fun name hname => hown ▸ hnew name hname⟩,
    hleaves.keeps hnodup hnew hinner.names hinner.keeps⟩

/-- Without lines there is nothing to edit. -/
theorem AreEdited.nil : AreEdited kept reserved path [] [] := ⟨[], .nil, .nil⟩

/-- A passage for the own lines of a table in front of those of the tables inside it. -/
theorem BuildAll.headed (hinner : BuildAll kept reserved path fields passages inner)
    {entries : List Entry} (hvalues : entries.map (fun e => (e.1, e.2.value)) = plainFields fields)
    (hreadable : ∀ e ∈ entries, IsBare e.1 ∧ e.2.IsReadable)
    (hnodup : (fields.map Prod.fst).Nodup) (hreserved : ∀ x ∈ fields, reserved path x.1)
    (hpath : path ≠ []) (hbare : ∀ name ∈ path, IsBare name) (hdepth : path.length ≤ maxKeyParts)
    {p : Passage} (hp : p.IsEditOf kept reserved (.ofSection ⟨path, entries⟩)) :
    Builds kept reserved path (.table fields) (p :: passages)
      (.mk true (p.lines.map KeyLine.pair) inner) := by
  obtain ⟨ppath, lines⟩ := p
  obtain ⟨hppath, hlines⟩ := hp
  obtain rfl : ppath = path := hppath
  have hlines : AreEdited kept reserved ppath (entries.map KeyLine.ofEntry) lines := hlines
  obtain ⟨hagree, hkeeps⟩ := hlines.table hvalues hnodup hreserved hinner
  refine ⟨⟨nofun, hagree, hinner.sound⟩, ?_, ?_, hkeeps⟩
  · rw [List.forall_mem_cons]
    refine ⟨⟨hpath, hbare, hdepth, fun l hl => ?_⟩, hinner.readable⟩
    rcases hlines.mem hl with ⟨e, he, -, rfl⟩ | ⟨hread, -⟩
    · exact KeyLine.extends_ofEntry (hreadable e he).1 (hreadable e he).2
    · exact hread.extends
  · rw [List.flatMap_cons, hinner.statements]
    rfl

/-- A table with nothing but tables in it has no passage of its own. -/
theorem BuildAll.headless (hinner : BuildAll kept reserved path fields passages inner)
    (hplain : plainFields fields = []) (hne : inner ≠ []) (hnodup : (fields.map Prod.fst).Nodup)
    (hreserved : ∀ x ∈ fields, reserved path x.1) :
    Builds kept reserved path (.table fields) passages (.mk false [] inner) := by
  have hnil : AreEdited kept reserved path (([] : List Entry).map KeyLine.ofEntry) [] := .nil
  obtain ⟨hagree, hkeeps⟩ := hnil.table hplain.symm hnodup hreserved hinner
  exact ⟨⟨fun _ => ⟨rfl, hne⟩, hagree, hinner.sound⟩, hinner.readable, hinner.statements, hkeeps⟩

/-- A plain value needs no passage. -/
theorem BuildAll.skip (hinner : BuildAll kept reserved path fields passages inner) (name : String)
    {v : Value} (hplain : v.isTable = false) :
    BuildAll kept reserved path ((name, v) :: fields) passages inner where
  sound := hinner.sound
  readable := hinner.readable
  statements := hinner.statements
  names := by rw [hinner.names, innerOf, if_neg (by simp [hplain])]
  keeps name' v' hmem hv' := by
    rcases List.mem_cons.mp hmem with heq | hmem
    · obtain ⟨rfl, rfl⟩ := Prod.mk.inj heq
      exact absurd (hplain.symm.trans hv') Bool.false_ne_true
    · exact hinner.keeps name' v' hmem hv'

/-- The passages of a table in front of those of other tables. -/
theorem BuildAll.cons (hinner : BuildAll kept reserved path fields passages inner) {name : String}
    {v : Value} (htable : v.isTable = true) {first : List Passage} {o : Outline}
    (ho : Builds kept reserved (path ++ [name]) v first o) :
    BuildAll kept reserved path ((name, v) :: fields) (first ++ passages) ((name, o) :: inner) where
  sound := ⟨ho.sound, hinner.sound⟩
  readable p hp := (List.mem_append.mp hp).elim (ho.readable p) (hinner.readable p)
  statements := by
    rw [List.flatMap_append, ho.statements, hinner.statements, Outline.innerStatements]
  names := by rw [innerOf, if_pos htable, List.map_cons, List.map_cons, hinner.names]
  keeps name' v' hmem hv' := by
    rcases List.mem_cons.mp hmem with heq | hmem
    · obtain ⟨rfl, rfl⟩ := Prod.mk.inj heq
      exact ⟨o, List.mem_cons_self, ho.keeps⟩
    · obtain ⟨o', ho', hkeeps⟩ := hinner.keeps name' v' hmem hv'
      exact ⟨o', List.mem_cons_of_mem _ ho', hkeeps⟩

mutual

theorem exists_outline (v : Value) (htable : v.isTable = true) {depth : Nat} (hfits : Fits depth v)
    {path : List String} (hpath : path ≠ []) (hbare : ∀ name ∈ path, IsBare name)
    (hdepth : path.length + depth ≤ maxKeyParts + 1) (hcovered : IsCovered reserved path v)
    {sections : List Section} (hsections : sections? path v = some sections)
    {passages : List Passage} (hedited : List.Forall₂ (Passage.IsEditOf kept reserved) passages
      (sections.map Passage.ofSection)) :
    ∃ o, Builds kept reserved path v passages o := by
  match v with
  | .table fields =>
    obtain ⟨hnames, hinnerCovered⟩ := hcovered.names
    obtain ⟨hpos, hnodup, hfields⟩ := hfits
    obtain ⟨entries, hentries, hreadable, hvalues⟩ := entries?_of_fits hfields
    obtain ⟨more, hmore, hnil, -⟩ := fieldSections?_of_fits fields hfields hbare (by omega)
    simp only [sections?, hentries, hmore, Option.bind_eq_bind, Option.bind_some] at hsections
    rw [← Option.some.inj hsections] at hedited
    split at hedited
    · -- The tables inside stand for the header.
      rename_i hskip
      obtain ⟨inner, hinner⟩ :=
        exists_outlines fields hfields hbare (by omega) hinnerCovered hmore hedited
      have hne : inner ≠ [] := by
        intro hinnerNil
        have hnames' := hinner.names
        rw [hinnerNil, List.map_nil, eq_comm, List.map_eq_nil_iff] at hnames'
        exact hskip.2 (hnil.mpr hnames')
      have hplain : plainFields fields = [] := by
        rw [← hvalues, hskip.1, List.map_nil]
      exact ⟨_, hinner.headless hplain hne hnodup hnames⟩
    · -- The table has a section of its own, in front of those of the tables inside.
      rw [List.map_cons] at hedited
      cases hedited with
      | cons hp hrest =>
        obtain ⟨inner, hinner⟩ :=
          exists_outlines fields hfields hbare (by omega) hinnerCovered hmore hrest
        exact ⟨_, hinner.headed hvalues hreadable hnodup hnames hpath hbare (by omega) hp⟩

theorem exists_outlines (fields : List (String × Value)) {depth : Nat}
    (hfits : FieldsFit depth fields) {path : List String} (hbare : ∀ name ∈ path, IsBare name)
    (hdepth : path.length + depth ≤ maxKeyParts)
    (hcovered : ∀ x ∈ fields, IsCovered reserved (path ++ [x.1]) x.2)
    {sections : List Section} (hsections : fieldSections? path fields = some sections)
    {passages : List Passage} (hedited : List.Forall₂ (Passage.IsEditOf kept reserved) passages
      (sections.map Passage.ofSection)) :
    ∃ inner, BuildAll kept reserved path fields passages inner := by
  match fields with
  | [] =>
    obtain rfl : sections = [] := (Option.some.inj hsections).symm
    obtain rfl : passages = [] := List.forall₂_nil_right_iff.mp hedited
    exact ⟨[], trivial, List.forall_mem_nil _, rfl, rfl, nofun⟩
  | (name, v) :: rest =>
    obtain ⟨hname, hv, hrest⟩ := hfits
    obtain ⟨hvCovered, hrestCovered⟩ := List.forall_mem_cons.mp hcovered
    rw [fieldSections?, Option.bind_eq_bind, Option.bind_eq_some_iff] at hsections
    obtain ⟨first, hfirst, hsections⟩ := hsections
    obtain ⟨more, hmore, hall⟩ := Option.bind_eq_some_iff.mp hsections
    obtain rfl : first ++ more = sections := Option.some.inj hall
    -- What is edited is cut where the sections of the first table end.
    rw [List.map_append] at hedited
    have hfirstEdited := List.forall₂_take_append _ _ _ hedited
    have hmoreEdited := List.forall₂_drop_append _ _ _ hedited
    obtain ⟨inner, hinner⟩ :=
      exists_outlines rest hrest hbare hdepth hrestCovered hmore hmoreEdited
    rw [← List.take_append_drop (first.map Passage.ofSection).length passages]
    cases htable : v.isTable with
    | false =>
      have hnone : sections? (path ++ [name]) v = some [] := by
        cases v with
        | table fields => exact absurd htable.symm Bool.false_ne_true
        | _ => rfl
      obtain rfl : first = [] := Option.some.inj (hfirst.symm.trans hnone)
      exact ⟨inner, hinner.skip name htable⟩
    | true =>
      have hbare' : ∀ n ∈ path ++ [name], IsBare n := by
        rw [List.forall_mem_append, List.forall_mem_singleton]
        exact ⟨hbare, hname⟩
      have hdepth' : (path ++ [name]).length + depth ≤ maxKeyParts + 1 := by
        rw [List.length_append, List.length_singleton]
        omega
      obtain ⟨o, ho⟩ := exists_outline v htable hv (by simp) hbare' hdepth' hvCovered
        hfirst hfirstEdited
      exact ⟨_, hinner.cons htable ho⟩

end

/-- An edit of a sheet for a table of tables is read, and as what the edit has left of the table. -/
theorem Page.IsEditOf.exists_parse? {page : Page} {sections : List Section}
    (hedited : page.IsEditOf kept reserved (.ofSections sections))
    (hsections : sections? [] (.table fields) = some sections)
    (hfits : Fits (maxKeyParts + 1) (.table fields)) (hne : fields ≠ [])
    (htables : ∀ x ∈ fields, x.2.isTable = true)
    (hcovered : IsCovered reserved [] (.table fields)) :
    ∃ v, parse? page.render = some v ∧ Keeps kept reserved [] (.table fields) v := by
  obtain ⟨hnames, hinnerCovered⟩ := hcovered.names
  obtain ⟨-, hnodup, hfields⟩ := hfits
  have hplain : plainFields fields = [] := by
    rw [plainFields, List.filter_eq_nil_iff]
    intro x hx
    simp [htables x hx]
  have hinnerNe : innerOf fields ≠ [] := by
    obtain ⟨x, rest, rfl⟩ := List.exists_cons_of_ne_nil hne
    rw [innerOf, if_pos (htables x List.mem_cons_self)]
    exact List.cons_ne_nil _ _
  have hbare := List.forall_mem_nil IsBare
  obtain ⟨entries, hentries, -, hvalues⟩ := entries?_of_fits hfields
  obtain rfl : entries = [] := List.map_eq_nil_iff.mp (hvalues.trans hplain)
  obtain ⟨more, hmore, hnil, -⟩ := fieldSections?_of_fits fields hfields hbare (by simp)
  -- The root table has no section, and what is in front of the first header has been added.
  have hmoreNe : more ≠ [] := fun h => hinnerNe (hnil.mp h)
  have hroot : sections? [] (.table fields) = some more := by
    simp [sections?, hentries, hmore, hmoreNe]
  obtain rfl : sections = more := Option.some.inj (hsections.symm.trans hroot)
  obtain ⟨inner, hinner⟩ :=
    exists_outlines fields hfields hbare (by simp) hinnerCovered hmore hedited.passages
  have hfront : AreEdited kept reserved [] (([] : List Entry).map KeyLine.ofEntry) page.front :=
    hedited.front
  obtain ⟨hagree, hkeeps⟩ := hfront.table hplain.symm hnodup hnames hinner
  obtain ⟨last, hrun⟩ := Outline.runAll_document hagree hinner.sound
  have hextends : ∀ l ∈ page.front, l.Extends := by
    intro l hl
    rcases hfront.mem hl with ⟨e, he, -⟩ | ⟨hread, -⟩
    · exact absurd he List.not_mem_nil
    · exact hread.extends
  rw [Outline.document, ← hinner.statements] at hrun
  exact ⟨_, Page.parse?_render hextends hinner.readable hrun, hkeeps⟩

end Values

end AudioLink.Toml
