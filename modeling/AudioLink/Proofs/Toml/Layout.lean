import AudioLink.Proofs.Toml.Lines
import AudioLink.Proofs.Toml.Outline

/-
Values are read as they are written.

A table whose names are bare and whose values fit the format is written as a sheet, and the sheet is
read as the same table, but for the order of its fields: the plain values of a table come before the
tables inside it, because a sheet has them in its section and the others in sections of their own.
-/
set_option autoImplicit false

namespace AudioLink.Toml

/-! ## Values that can be written -/

mutual

/-- A value can be written, with tables nested at most so many levels deep: a number is in range, a
text needs no escapes, and the names of a table are bare and differ. -/
def Fits : Nat → Value → Prop
  | _, .bool _ => True
  | _, .int n => minInt ≤ n ∧ n ≤ maxInt
  | _, .text s => isPlainText s.toList = true
  | depth, .table fields =>
    0 < depth ∧ (fields.map Prod.fst).Nodup ∧ FieldsFit (depth - 1) fields
  | _, _ => False

/-- These values can be written under their names. -/
def FieldsFit : Nat → List (String × Value) → Prop
  | _, [] => True
  | depth, (name, v) :: rest => IsBare name ∧ Fits depth v ∧ FieldsFit depth rest

end

/-- A named value as a key of one part. -/
def singleKey (x : String × Value) : List String × Value := ([x.1], x.2)

/-- The values among named values that are no tables. -/
def plainFields (fields : List (String × Value)) : List (String × Value) :=
  fields.filter fun x => !x.2.isTable

mutual

/-- A value as it is read back: the plain values of each table come first. -/
def arrange : Value → Value
  | .table fields => .table (plainFields fields ++ arrangeTables fields)
  | v => v

/-- The tables among named values as they are read back. -/
def arrangeTables : List (String × Value) → List (String × Value)
  | [] => []
  | (name, v) :: rest =>
    if v.isTable then (name, arrange v) :: arrangeTables rest else arrangeTables rest

end

mutual

/-- The layout of a table. A table with nothing but tables in it has no header. -/
def outlineOf : Value → Outline
  | .table fields =>
    .mk (!(plainFields fields).isEmpty || (innerOf fields).isEmpty)
      ((plainFields fields).map singleKey) (innerOf fields)
  | _ => .mk true [] []

/-- The layout of the tables among named values. -/
def innerOf : List (String × Value) → List (String × Outline)
  | [] => []
  | (name, v) :: rest => if v.isTable then (name, outlineOf v) :: innerOf rest else innerOf rest

end

/-! ## Keys of one part -/

/-- The fields that named values make. -/
def valueNodes (fields : List (String × Value)) : Fields := fields.map fun x => (x.1, .value x.2)

/-- Fields keep their names as nodes. -/
theorem map_fst_valueNodes (fields : List (String × Value)) :
    (valueNodes fields).map Prod.fst = fields.map Prod.fst := by
  simp [valueNodes, Function.comp_def]

/-- A key of one part is a new name. -/
theorem addPairs_singleKey (entries : List (String × Value)) :
    Fields.addPairs (entries.map singleKey) = Fields.graftAll (valueNodes entries) := by
  have hstep : (fun fields (x : String × Value) => addPair fields [x.1] x.2) =
      fun fields x => Fields.graft fields (x.1, .value x.2) := by
    funext fields x
    exact Fields.put_eq_graft x.1 x.2 fields
  funext fields
  rw [Fields.addPairs, Fields.graftAll, valueNodes, List.foldlM_map, List.foldlM_map]
  exact congrArg (List.foldlM · fields entries) hstep

/-- Pairs of different names are all added. -/
theorem addPairs_of_nodup {entries : List (String × Value)} (hnodup : (entries.map Prod.fst).Nodup) :
    Fields.addPairs (entries.map singleKey) [] = some (valueNodes entries) := by
  rw [addPairs_singleKey]
  exact Fields.graftAll_of_new (map_fst_valueNodes entries ▸ hnodup) fun _ _ => rfl

/-- Pairs of different names are the own fields of their table. -/
theorem ownFields_of_nodup {entries : List (String × Value)}
    (hnodup : (entries.map Prod.fst).Nodup) :
    Outline.ownFields (entries.map singleKey) = valueNodes entries := by
  rw [Outline.ownFields, addPairs_of_nodup hnodup, Option.getD_some]

/-- Names that differ agree, whether they are those of values or of tables. -/
theorem agree_of_nodup {entries : List (String × Value)} {names : List String}
    (hnodup : (entries.map Prod.fst ++ names).Nodup) :
    Outline.Agree (entries.map singleKey) names := by
  obtain ⟨hentries, hnames, hother⟩ := List.nodup_append.mp hnodup
  have hown := ownFields_of_nodup hentries
  refine ⟨?_, hnames, fun name hname => ?_⟩
  · rw [hown]
    exact addPairs_of_nodup hentries
  · rw [hown]
    refine Fields.get?_eq_none_iff.mpr fun hmem => ?_
    rw [map_fst_valueNodes] at hmem
    exact hother name hmem name hname rfl

/-! ## The names of a layout -/

/-- The inner outlines are those of the fields that are tables. -/
theorem map_fst_innerOf (fields : List (String × Value)) :
    (innerOf fields).map Prod.fst = (fields.filter fun x => x.2.isTable).map Prod.fst := by
  induction fields with
  | nil => rfl
  | cons x fields ih =>
    by_cases hx : x.2.isTable = true
    · simp [innerOf, hx, ih]
    · simp [innerOf, hx, ih]

/-- The arranged tables are the fields that are tables, in their order. -/
theorem map_fst_arrangeTables (fields : List (String × Value)) :
    (arrangeTables fields).map Prod.fst = (fields.filter fun x => x.2.isTable).map Prod.fst := by
  induction fields with
  | nil => rfl
  | cons x fields ih =>
    by_cases hx : x.2.isTable = true
    · simp [arrangeTables, hx, ih]
    · simp [arrangeTables, hx, ih]

/-- The names of a table are those of its plain values and of its tables. -/
theorem perm_names (fields : List (String × Value)) :
    List.Perm ((plainFields fields).map Prod.fst ++
      (fields.filter fun x => x.2.isTable).map Prod.fst) (fields.map Prod.fst) := by
  rw [← List.map_append]
  refine List.Perm.map Prod.fst ?_
  have hperm := List.filter_append_perm (fun x : String × Value => !x.2.isTable) fields
  simpa [plainFields] using hperm

/-- The names of a table are those of its plain values and those that its layout has inside it. -/
theorem perm_map_fst (fields : List (String × Value)) :
    List.Perm ((plainFields fields).map Prod.fst ++ (innerOf fields).map Prod.fst)
      (fields.map Prod.fst) := by
  rw [map_fst_innerOf]
  exact perm_names fields

mutual

/-- What fits has a sound outline. -/
theorem isSound_outlineOf (v : Value) {depth : Nat} (hfits : Fits depth v) :
    (outlineOf v).IsSound := by
  match v with
  | .table fields =>
    obtain ⟨-, hnodup, hfields⟩ := hfits
    have hnames := (perm_map_fst fields).nodup_iff.mpr hnodup
    refine ⟨fun hheaded => ?_, agree_of_nodup hnames, areSound_innerOf fields hfields⟩
    simpa using hheaded
  | .bool _ | .int _ | .text _ =>
    exact ⟨fun hheaded => absurd hheaded.symm Bool.false_ne_true, ⟨rfl, .nil, nofun⟩, trivial⟩

/-- All tables among fields that fit have sound outlines. -/
theorem areSound_innerOf (fields : List (String × Value)) {depth : Nat}
    (hfits : FieldsFit depth fields) : Outline.AreSound (innerOf fields) := by
  match fields with
  | [] => trivial
  | (name, v) :: rest =>
    obtain ⟨-, hv, hrest⟩ := hfits
    rw [innerOf]
    split
    · exact ⟨isSound_outlineOf v hv, areSound_innerOf rest hrest⟩
    · exact areSound_innerOf rest hrest

end

/-! ## The value of a layout -/

theorem fieldValues_append (fields fields' : Fields) :
    fieldValues (fields ++ fields') = fieldValues fields ++ fieldValues fields' := by
  induction fields with
  | nil => rfl
  | cons x fields ih => simp [fieldValues, ih]

/-- Values are read back from the nodes that they become. -/
theorem fieldValues_valueNodes (fields : List (String × Value)) :
    fieldValues (valueNodes fields) = fields := by
  induction fields with
  | nil => rfl
  | cons x fields ih =>
    simpa [valueNodes, fieldValues, Node.toValue] using ih

/-- The names of the plain values differ as those of the table do. -/
theorem nodup_plainFields {fields : List (String × Value)} (hnodup : (fields.map Prod.fst).Nodup) :
    ((plainFields fields).map Prod.fst).Nodup :=
  hnodup.sublist (List.filter_sublist.map Prod.fst)

mutual

/-- An outline stands for the value as it is arranged: plain fields first, then the tables. -/
theorem toValue_outlineOf (v : Value) (htable : v.isTable = true) {depth : Nat}
    (hfits : Fits depth v) : (outlineOf v).node.toValue = arrange v := by
  match v with
  | .table fields =>
    obtain ⟨-, hnodup, hfields⟩ := hfits
    rw [outlineOf, Outline.node, Node.toValue, fieldValues_append,
      ownFields_of_nodup (nodup_plainFields hnodup), fieldValues_valueNodes,
      fieldValues_innerOf fields hfields, arrange]

/-- The outlines of the tables among the fields stand for these tables as they are arranged. -/
theorem fieldValues_innerOf (fields : List (String × Value)) {depth : Nat}
    (hfits : FieldsFit depth fields) :
    fieldValues (Outline.nodes (innerOf fields)) = arrangeTables fields := by
  match fields with
  | [] => rfl
  | (name, v) :: rest =>
    obtain ⟨-, hv, hrest⟩ := hfits
    rw [innerOf, arrangeTables]
    by_cases htable : v.isTable = true
    · rw [if_pos htable, if_pos htable, Outline.nodes, fieldValues, toValue_outlineOf v htable hv,
        fieldValues_innerOf rest hrest]
    · rw [if_neg htable, if_neg htable]
      exact fieldValues_innerOf rest hrest

end

/-! ## Sections -/

/-- What fits and is no table is a plain value, and can be read. -/
theorem plain?_of_fits {v : Value} {depth : Nat} (hfits : Fits depth v)
    (hplain : v.isTable = false) : ∃ p, plain? v = some p ∧ p.value = v ∧ p.IsReadable := by
  cases v with
  | bool b => exact ⟨.bool b, rfl, rfl, trivial⟩
  | int n => exact ⟨.int n, if_pos hfits, rfl, hfits⟩
  | text s => exact ⟨.text s, rfl, rfl, hfits⟩
  | table fields => exact absurd hplain.symm Bool.false_ne_true
  | _ => exact hfits.elim

/-- The plain fields of what fits are entries with bare names, and can be read. -/
theorem entries?_of_fits {fields : List (String × Value)} {depth : Nat}
    (hfits : FieldsFit depth fields) :
    ∃ entries, entries? fields = some entries ∧
      (∀ e ∈ entries, IsBare e.1 ∧ e.2.IsReadable) ∧
      entries.map (fun e => (e.1, e.2.value)) = plainFields fields := by
  induction fields with
  | nil => exact ⟨[], rfl, by simp, rfl⟩
  | cons x fields ih =>
    obtain ⟨name, v⟩ := x
    obtain ⟨hname, hv, hrest⟩ := hfits
    obtain ⟨entries, hentries, hreadable, hvalues⟩ := ih hrest
    cases htable : v.isTable with
    | true =>
      refine ⟨entries, by simp [entries?, htable, hentries], hreadable, ?_⟩
      simpa [plainFields, htable] using hvalues
    | false =>
      obtain ⟨p, hp, hvalue, hpReadable⟩ := plain?_of_fits hv htable
      refine ⟨(name, p) :: entries, by simp [entries?, htable, hentries, hp], ?_, ?_⟩
      · intro e he
        rcases List.mem_cons.mp he with rfl | he
        · exact ⟨hname, hpReadable⟩
        · exact hreadable e he
      · rw [List.map_cons, hvalues, hvalue]
        simp [plainFields, htable]

/-- The sections of a table hold the statements of its layout. -/
structure Lays (sections : List Section) (statements : List Statement) : Prop where
  readable : ∀ s ∈ sections, s.IsReadable
  statements : sections.flatMap Section.statements = statements

/-- Sections that are laid one after the other state one thing after the other. -/
theorem Lays.append {first rest : List Section} {statements statements' : List Statement}
    (hfirst : Lays first statements) (hrest : Lays rest statements') :
    Lays (first ++ rest) (statements ++ statements') where
  readable s hs := by
    rcases List.mem_append.mp hs with hs | hs
    · exact hfirst.readable s hs
    · exact hrest.readable s hs
  statements := by rw [List.flatMap_append, hfirst.statements, hrest.statements]

/-- A table in a section of its own. -/
theorem lays_section {path : List String} {entries : List Entry} (hbare : ∀ name ∈ path, IsBare name)
    (hdepth : path.length ≤ maxKeyParts) (hentries : ∀ e ∈ entries, IsBare e.1 ∧ e.2.IsReadable) :
    Lays [⟨path, entries⟩] ((if path = [] then [] else [.header path]) ++
      Outline.pairs ((entries.map fun e => (e.1, e.2.value)).map singleKey)) where
  readable s hs := by
    rw [List.mem_singleton.mp hs]
    exact ⟨hbare, hdepth, fun e he => (hentries e he).1, fun e he => (hentries e he).2⟩
  statements := by simp [Section.statements, Outline.pairs, singleKey]

mutual

/-- A table that fits is laid out in sections under its path. -/
theorem sections?_of_fits (v : Value) (htable : v.isTable = true) {depth : Nat}
    (hfits : Fits depth v) {path : List String} (hpath : path ≠ [])
    (hbare : ∀ name ∈ path, IsBare name) (hdepth : path.length + depth ≤ maxKeyParts + 1) :
    ∃ sections, sections? path v = some sections ∧ sections ≠ [] ∧
      Lays sections ((outlineOf v).statements path) := by
  match v with
  | .table fields =>
    obtain ⟨hpos, -, hfields⟩ := hfits
    obtain ⟨entries, hentries, hreadable, hvalues⟩ := entries?_of_fits hfields
    obtain ⟨inner, hinner, hnil, hlays⟩ :=
      fieldSections?_of_fits fields hfields hbare (by omega)
    have hempty : entries = [] ↔ plainFields fields = [] := by
      rw [← hvalues]
      simp
    by_cases hskip : entries = [] ∧ inner ≠ []
    · -- The tables inside stand for the header, and there is nothing else to write.
      refine ⟨inner, ?_, hskip.2, ?_⟩
      · simp [sections?, hentries, hinner, hskip]
      · have hplain : plainFields fields = [] := hempty.mp hskip.1
        have hne : innerOf fields ≠ [] := fun h => hskip.2 (hnil.mpr h)
        simpa [outlineOf, Outline.statements, hplain, hne, Outline.pairs] using hlays
    · refine ⟨⟨path, entries⟩ :: inner, ?_, by simp, ?_⟩
      · simp [sections?, hentries, hinner, hskip]
      · have hheaded : (!(plainFields fields).isEmpty || (innerOf fields).isEmpty) = true := by
          by_cases hplain : plainFields fields = []
          · have hnone : inner = [] := Classical.not_not.mp fun hne =>
              hskip ⟨hempty.mpr hplain, hne⟩
            simp [hnil.mp hnone]
          · simp [hplain]
        have hsection := lays_section hbare (by omega) hreadable
        have hall := hsection.append hlays
        rw [if_neg hpath, hvalues] at hall
        rw [outlineOf, Outline.statements, hheaded, if_pos rfl]
        exact hall

/-- The tables among the fields are laid out under the path of their table. -/
theorem fieldSections?_of_fits (fields : List (String × Value)) {depth : Nat}
    (hfits : FieldsFit depth fields) {path : List String} (hbare : ∀ name ∈ path, IsBare name)
    (hdepth : path.length + depth ≤ maxKeyParts) :
    ∃ sections, fieldSections? path fields = some sections ∧
      (sections = [] ↔ innerOf fields = []) ∧
      Lays sections (Outline.innerStatements path (innerOf fields)) := by
  match fields with
  | [] => exact ⟨[], rfl, by simp [innerOf], by simp, rfl⟩
  | (name, v) :: rest =>
    obtain ⟨hname, hv, hrest⟩ := hfits
    obtain ⟨more, hmore, hnil, hlays⟩ := fieldSections?_of_fits rest hrest hbare hdepth
    -- A plain value has no section: it stands in that of its table.
    cases htable : v.isTable with
    | false =>
      have hnone : sections? (path ++ [name]) v = some [] := by
        cases v with
        | table fields => exact absurd htable.symm Bool.false_ne_true
        | _ => rfl
      refine ⟨more, by simp [fieldSections?, hnone, hmore], ?_, ?_⟩
      · simpa [innerOf, htable] using hnil
      · simpa [innerOf, htable] using hlays
    | true =>
      have hbare' : ∀ n ∈ path ++ [name], IsBare n := by
        intro n hn
        rcases List.mem_append.mp hn with hn | hn
        · exact hbare n hn
        · rw [List.mem_singleton.mp hn]
          exact hname
      have hdepth' : (path ++ [name]).length + depth ≤ maxKeyParts + 1 := by
        rw [List.length_append, List.length_singleton]
        omega
      obtain ⟨first, hfirst, hne, hlays'⟩ :=
        sections?_of_fits v htable hv (by simp) hbare' hdepth'
      refine ⟨first ++ more, by simp [fieldSections?, hfirst, hmore], ?_, ?_⟩
      · simp [innerOf, htable, hne]
      · rw [innerOf, if_pos htable, Outline.innerStatements]
        exact hlays'.append hlays

end

/-! ## Documents -/

/-- Nothing is skipped where no byte order mark stands. -/
theorem skipByteOrderMark_of_head? {cs : List Char} (hcs : cs.head? ≠ some '\uFEFF') :
    skipByteOrderMark cs = cs := by
  unfold skipByteOrderMark
  split
  · exact absurd rfl hcs
  · rfl

/-- A section begins with a bracket or with a name, if it has a line at all. -/
theorem Section.IsReadable.head?_render {s : Section} (hs : s.IsReadable) :
    s.render.head? ≠ some '\uFEFF' := by
  by_cases hpath : s.path = []
  · cases hentries : s.entries with
    | nil => simp [Section.render, renderHeader, hpath, hentries]
    | cons e entries =>
      have hname : IsBare e.1 := hs.keys e (by simp [hentries])
      obtain ⟨c, cs, hcs⟩ := List.exists_cons_of_ne_nil hname.1
      have hc : c ≠ '\uFEFF' := Text.ne_of_test (hname.2 c (by simp [hcs])) (by decide)
      simpa [Section.render, renderHeader, hpath, hentries, renderEntry,
        renderKeyPart_of_isBare hname, hcs] using hc
  · simp [Section.render, renderHeader, hpath]

/-- A sheet does not begin with the mark of a byte order. -/
theorem skipByteOrderMark_renderSheet {sections : List Section}
    (hsections : ∀ s ∈ sections, s.IsReadable) :
    skipByteOrderMark (renderSheet sections) = renderSheet sections := by
  apply skipByteOrderMark_of_head?
  match sections with
  | [] => simp [renderSheet]
  | [s] => exact (hsections s (by simp)).head?_render
  | s :: s' :: rest =>
    have hs := (hsections s (by simp)).head?_render
    rw [renderSheet, List.head?_append]
    · cases hhead : s.render.head? with
      | none => simp
      | some c => simpa [hhead] using hs
    · simp

/-- What is written of a table is read as the same table, with its plain values first. -/
theorem parse?_write? {fields : List (String × Value)}
    (hfits : Fits (maxKeyParts + 1) (.table fields)) :
    ∃ text, write? (.table fields) = some text ∧ parse? text = some (arrange (.table fields)) := by
  obtain ⟨-, hnodup, hfields⟩ := hfits
  obtain ⟨entries, hentries, hreadable, hvalues⟩ := entries?_of_fits hfields
  obtain ⟨inner, hinner, -, hlays⟩ :=
    fieldSections?_of_fits fields hfields (List.forall_mem_nil IsBare) (by simp)
  obtain ⟨sections, hsections, hlaysAll⟩ : ∃ sections, sections? [] (.table fields) = some sections ∧
      Lays sections
        (Outline.document ((plainFields fields).map singleKey) (innerOf fields)) := by
    -- The root table has no header, and no section if it has no values of its own.
    have hsection := lays_section (List.forall_mem_nil IsBare) (by simp) hreadable
    have hall := hsection.append hlays
    rw [if_pos rfl, hvalues, List.nil_append] at hall
    by_cases hskip : entries = [] ∧ inner ≠ []
    · refine ⟨inner, by simp [sections?, hentries, hinner, hskip], ?_⟩
      obtain ⟨rfl, -⟩ := hskip
      have hplain : plainFields fields = [] := hvalues.symm
      simpa [Outline.document, hplain, Outline.pairs] using hlays
    · exact ⟨⟨[], entries⟩ :: inner, by simp [sections?, hentries, hinner, hskip], hall⟩
  have hnames := (perm_map_fst fields).nodup_iff.mpr hnodup
  obtain ⟨last, hrun⟩ :=
    Outline.runAll_document (agree_of_nodup hnames) (areSound_innerOf fields hfields)
  have hreads := reads_renderSheet hlaysAll.readable
  rw [hlaysAll.statements] at hreads
  have hstatements := hreads _ (Nat.lt_succ_self _)
  refine ⟨renderSheet sections, by simp [write?, hsections], ?_⟩
  rw [Outline.runAll] at hrun
  simp only [parse?, skipByteOrderMark_renderSheet hlaysAll.readable, hstatements, hrun,
    Option.bind_eq_bind, Option.bind_some, fieldValues_append,
    ownFields_of_nodup (nodup_plainFields hnodup), fieldValues_valueNodes,
    fieldValues_innerOf fields hfields, arrange]

/-! ## Looking up what was read -/

theorem lookup_eq_none_iff {fields : List (String × Value)} {name : String} :
    Value.lookup name fields = none ↔ name ∉ fields.map Prod.fst :=
  find?_name_eq_none_iff

/-- Among different names a look-up finds exactly the pairs that are there. -/
theorem lookup_eq_some_iff {fields : List (String × Value)} (hnodup : (fields.map Prod.fst).Nodup)
    {name : String} {v : Value} : Value.lookup name fields = some v ↔ (name, v) ∈ fields :=
  find?_name_eq_some_iff hnodup

/-- Every table among the fields is arranged in its turn. -/
theorem mem_arrangeTables {fields : List (String × Value)} {x : String × Value}
    (hx : x ∈ fields) (htable : x.2.isTable = true) : (x.1, arrange x.2) ∈ arrangeTables fields := by
  induction fields with
  | nil => exact absurd hx List.not_mem_nil
  | cons y fields ih =>
    rw [arrangeTables]
    rcases List.mem_cons.mp hx with rfl | hx
    · rw [if_pos htable]
      simp
    · split
      · simp [ih hx]
      · exact ih hx

/-- There is nothing to arrange in a plain value. -/
theorem arrange_of_isTable_eq_false {v : Value} (hplain : v.isTable = false) : arrange v = v := by
  cases v with
  | table fields => exact absurd hplain.symm Bool.false_ne_true
  | _ => rfl

/-- Under each name stands what was written under it, rearranged. -/
theorem lookup_arrange {fields : List (String × Value)} (hnodup : (fields.map Prod.fst).Nodup)
    (name : String) : Value.lookup name (plainFields fields ++ arrangeTables fields) =
      (Value.lookup name fields).map arrange := by
  have hperm : List.Perm ((plainFields fields ++ arrangeTables fields).map Prod.fst)
      (fields.map Prod.fst) := by
    rw [List.map_append, map_fst_arrangeTables]
    exact perm_names fields
  have hnodup' := hperm.nodup_iff.mpr hnodup
  cases hlookup : Value.lookup name fields with
  | some v =>
    have hmem := (lookup_eq_some_iff hnodup).mp hlookup
    rw [Option.map_some, lookup_eq_some_iff hnodup', List.mem_append]
    cases htable : v.isTable with
    | true => exact .inr (mem_arrangeTables hmem htable)
    | false =>
      rw [arrange_of_isTable_eq_false htable]
      exact .inl (by simp [plainFields, hmem, htable])
  | none =>
    -- The names are the same in another order, so a name that was missing is missing still.
    rw [Option.map_none, lookup_eq_none_iff, hperm.mem_iff, ← lookup_eq_none_iff]
    exact hlookup

end AudioLink.Toml
