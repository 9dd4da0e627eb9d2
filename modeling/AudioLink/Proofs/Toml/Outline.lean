import AudioLink.Proofs.Toml.Keys
import AudioLink.Toml.Document

/-
What the statements of a document build.

An `Outline` is a table as a sheet lays it out: its own keys with their values, and the tables inside
it, each of which may have a header or only stand on the way to others. Its statements build the
table that it describes, wherever the table is to stand, as long as the keys agree with each other
and with the names of the tables. Statements are carried out on the whole document, but all that
matters of it is the table that they are about: `under` passes from one to the other, and passing
several steps at once or one by one is the same.
-/
set_option autoImplicit false

namespace AudioLink.Toml

namespace Fields

/-! ## Tables by name -/

theorem set_set (name : String) (node node' : Node) (fields : Fields) :
    set name node' (set name node fields) = set name node' fields := by
  induction fields with
  | nil => simp [set]
  | cons x fields ih =>
    by_cases hx : x.1 = name
    · simp [set, hx]
    · simpa [set, hx] using ih

theorem get?_append (fields fields' : Fields) (name : String) :
    get? (fields ++ fields') name = (get? fields name).or (get? fields' name) := by
  rw [get?, List.find?_append, Option.map_or]
  rfl

/-- A new name stands behind the others. -/
theorem set_of_get?_eq_none {fields : Fields} {name : String} (hnew : get? fields name = none)
    (node : Node) : set name node fields = fields ++ [(name, node)] := by
  induction fields with
  | nil => rfl
  | cons x fields ih =>
    by_cases hx : x.1 = name
    · simp [get?, hx] at hnew
    · have hrest : get? fields name = none := by simpa [get?, hx] using hnew
      simp [set, hx, ih hrest]

/-! ## Changes under a path -/

variable {change change' : Fields → Option Fields}

/-- Two changes of one table are one change of it. -/
theorem under_bind (change change' : Fields → Option Fields) (path : List String)
    (fields : Fields) : (under change path fields).bind (under change' path) =
      under (fun fields => (change fields).bind change') path fields := by
  induction path generalizing fields with
  | nil => rfl
  | cons name path ih =>
    rw [under, under]
    -- The second change finds under the name what the first one has put there.
    cases hnode : get? fields name with
    | none =>
      dsimp only
      rw [← ih]
      cases under change path [] with
      | none => rfl
      | some inner => simp [under, get?_set_self, set_set]
    | some node =>
      cases node with
      | value v => rfl
      | table origin inner =>
        dsimp only
        rw [← ih]
        cases under change path inner with
        | none => rfl
        | some inner => simp [under, get?_set_self, set_set]
      | tables last before =>
        dsimp only
        rw [← ih]
        cases under change path last with
        | none => rfl
        | some last => simp [under, get?_set_self, set_set]

/-- A change leaves its table in its place. -/
theorem under_some_of_under {path : List String} {fields fields' : Fields}
    (hunder : under change path fields = some fields') : under some path fields' = some fields' := by
  have hbind := under_bind change some path fields
  simp only [Option.bind_fun_some] at hbind
  rw [hunder] at hbind
  exact hbind

/-- A table inside a table that a path leads to. -/
theorem under_append (change : Fields → Option Fields) (path rest : List String)
    (fields : Fields) : under change (path ++ rest) fields = under (under change rest) path fields := by
  induction path generalizing fields with
  | nil => rfl
  | cons name path ih =>
    rw [List.cons_append, under, under]
    simp only [ih]

/-- What a change makes, another makes as well if it makes the same of the table. -/
theorem under_of_under (himp : ∀ fields fields', change fields = some fields' →
    change' fields = some fields') {path : List String} {fields fields' : Fields}
    (hunder : under change path fields = some fields') :
    under change' path fields = some fields' := by
  induction path generalizing fields fields' with
  | nil => exact himp fields fields' hunder
  | cons name path ih =>
    rw [under] at hunder ⊢
    cases hnode : get? fields name with
    | none =>
      rw [hnode] at hunder
      obtain ⟨inner, hinner, rfl⟩ := Option.map_eq_some_iff.mp hunder
      simp only [ih hinner, Option.map_some]
    | some node =>
      rw [hnode] at hunder
      cases node with
      | value v => exact nomatch hunder
      | table origin inner =>
        obtain ⟨inner, hinner, rfl⟩ := Option.map_eq_some_iff.mp hunder
        simp only [ih hinner, Option.map_some]
      | tables last before =>
        obtain ⟨last, hlast, rfl⟩ := Option.map_eq_some_iff.mp hunder
        simp only [ih hlast, Option.map_some]

/-! ## New names -/

/-- Gives a new name its node. -/
def graft (fields : Fields) (x : String × Node) : Option Fields :=
  match get? fields x.1 with
  | none => some (fields ++ [x])
  | some _ => none

theorem put_eq_graft (name : String) (v : Value) (fields : Fields) :
    put name v fields = graft fields (name, .value v) := by
  rw [put, graft]
  cases hnode : get? fields name with
  | none => rw [set_of_get?_eq_none hnode]
  | some node => rfl

theorem graft_of_new {fields : Fields} {x : String × Node} (hnew : get? fields x.1 = none) :
    graft fields x = some (fields ++ [x]) := by
  rw [graft, hnew]

/-- Gives new names their nodes, one after the other. -/
def graftAll (nodes : Fields) (fields : Fields) : Option Fields := nodes.foldlM graft fields

theorem graftAll_of_new {fields nodes : Fields} (hnodup : (nodes.map Prod.fst).Nodup)
    (hnew : ∀ x ∈ nodes, get? fields x.1 = none) :
    graftAll nodes fields = some (fields ++ nodes) := by
  induction nodes generalizing fields with
  | nil => simp [graftAll]
  | cons x nodes ih =>
    rw [List.map_cons, List.nodup_cons] at hnodup
    rw [List.forall_mem_cons] at hnew
    have hrest : graftAll nodes (fields ++ [x]) = some (fields ++ [x] ++ nodes) := by
      refine ih hnodup.2 fun y hy => ?_
      have hne : x.1 ≠ y.1 := fun heq => hnodup.1 (heq ▸ List.mem_map_of_mem hy)
      rw [get?_append, hnew.2 y hy]
      simp [get?, hne]
    rw [graftAll] at hrest ⊢
    rw [List.foldlM_cons, graft_of_new hnew.1]
    simpa using hrest

end Fields

/-! ## Outlines -/

/-- A table as it is laid out. -/
inductive Outline where
  /-- A table with the keys and values that it holds itself and the tables inside it; `headed` says
  whether it has a header. -/
  | mk (headed : Bool) (entries : List (List String × Value)) (inner : List (String × Outline))

namespace Outline

/-- The fields that keys with their values make. -/
def ownFields (entries : List (List String × Value)) : Fields :=
  (Fields.addPairs entries []).getD []

mutual

/-- The table that is built. -/
def node : Outline → Node
  | .mk headed entries inner =>
    .table (if headed then .declared else .implied) (ownFields entries ++ nodes inner)

/-- The tables that are built inside a table. -/
def nodes : List (String × Outline) → Fields
  | [] => []
  | (name, o) :: rest => (name, o.node) :: nodes rest

end

/-- The statements that give keys of the open table their values. -/
def pairs (entries : List (List String × Value)) : List Statement :=
  entries.map fun e => .pair e.1 e.2

mutual

/-- The statements that build a table under a path. -/
def statements (path : List String) : Outline → List Statement
  | .mk headed entries inner =>
    (if headed then [.header path] else []) ++ pairs entries ++ innerStatements path inner

/-- The statements that build the tables inside a table. -/
def innerStatements (path : List String) : List (String × Outline) → List Statement
  | [] => []
  | (name, o) :: rest => o.statements (path ++ [name]) ++ innerStatements path rest

end

/-- The keys of a table can be given their values, and the tables inside it have other names. -/
structure Agree (entries : List (List String × Value)) (names : List String) : Prop where
  own : Fields.addPairs entries [] = some (ownFields entries)
  nodup : names.Nodup
  new : ∀ name ∈ names, (ownFields entries).get? name = none

mutual

/-- Keys and names agree, and a table without a header stands on the way to another. -/
def IsSound : Outline → Prop
  | .mk headed entries inner =>
    (headed = false → entries = [] ∧ inner ≠ []) ∧ Agree entries (inner.map Prod.fst) ∧
      AreSound inner

/-- All of these tables are sound. -/
def AreSound : List (String × Outline) → Prop
  | [] => True
  | (_, o) :: rest => o.IsSound ∧ AreSound rest

end

theorem map_fst_nodes (inner : List (String × Outline)) :
    (nodes inner).map Prod.fst = inner.map Prod.fst := by
  induction inner with
  | nil => rfl
  | cons x inner ih => simp [nodes, ih]

theorem mem_nodes {name : String} {o : Outline} {inner : List (String × Outline)}
    (ho : (name, o) ∈ inner) : (name, o.node) ∈ nodes inner := by
  induction inner with
  | nil => exact absurd ho List.not_mem_nil
  | cons x inner ih =>
    rcases List.mem_cons.mp ho with rfl | ho
    · exact List.mem_cons_self
    · exact List.mem_cons_of_mem _ (ih ho)

theorem get?_nodes_of_not_mem {name : String} {inner : List (String × Outline)}
    (hname : name ∉ inner.map Prod.fst) : (nodes inner).get? name = none := by
  rwa [Fields.get?_eq_none_iff, map_fst_nodes]

theorem get?_nodes_of_mem {name : String} {o : Outline} {inner : List (String × Outline)}
    (hnodup : (inner.map Prod.fst).Nodup) (ho : (name, o) ∈ inner) :
    (nodes inner).get? name = some o.node := by
  rw [Fields.get?_eq_some_iff (map_fst_nodes inner ▸ hnodup)]
  exact mem_nodes ho

theorem Agree.graftAll {entries : List (List String × Value)} {inner : List (String × Outline)}
    (h : Agree entries (inner.map Prod.fst)) : Fields.graftAll (nodes inner) (ownFields entries) =
      some (ownFields entries ++ nodes inner) := by
  refine Fields.graftAll_of_new (map_fst_nodes inner ▸ h.nodup) fun x hx => h.new _ ?_
  rw [← map_fst_nodes]
  exact List.mem_map_of_mem hx

/-! ## Building -/

/-- What several statements make of a document. -/
def runAll (statements : List Statement) (draft : Draft) : Option Draft :=
  statements.foldlM Draft.run draft

theorem runAll_append (first rest : List Statement) (draft : Draft) :
    runAll (first ++ rest) draft = (runAll first draft).bind (runAll rest) := by
  rw [runAll, List.foldlM_append]
  rfl

/-- The keys of a table that is there already, which is the open one. -/
theorem runAll_pairs (entries : List (List String × Value)) {path : List String}
    {root root' : Fields} (hthere : root.under some path = some root)
    (hunder : root.under (Fields.addPairs entries) path = some root') :
    runAll (pairs entries) ⟨root, path⟩ = some ⟨root', path⟩ := by
  induction entries generalizing root with
  | nil =>
    have hsame : root' = root := Option.some.inj (hunder.symm.trans hthere)
    rw [hsame]
    rfl
  | cons e entries ih =>
    -- The first key is one change of the table and the others are another.
    have hstep : Fields.addPairs (e :: entries) = fun fields =>
        (addPair fields e.1 e.2).bind (Fields.addPairs entries) := rfl
    rw [hstep, ← Fields.under_bind, Option.bind_eq_some_iff] at hunder
    obtain ⟨mid, hmid, hrest⟩ := hunder
    have hrun : Draft.run ⟨root, path⟩ (.pair e.1 e.2) = some ⟨mid, path⟩ := by
      rw [Draft.run, hmid]
      rfl
    rw [pairs, List.map_cons, runAll, List.foldlM_cons, hrun]
    exact ih (Fields.under_some_of_under hmid) hrest

/-- A table with a header is opened, takes its keys, and then the tables inside it. -/
theorem declare_of_graft {name : String} {entries : List (List String × Value)}
    {inner : List (String × Outline)} (hagree : Agree entries (inner.map Prod.fst))
    {fields fields' : Fields}
    (hgraft : fields.graft (name, .table .declared (ownFields entries ++ nodes inner)) =
      some fields') :
    ((Fields.declare name fields).bind (Fields.under (Fields.addPairs entries) [name])).bind
      (Fields.under (Fields.graftAll (nodes inner)) [name]) = some fields' := by
  have hown := hagree.own
  have hinner := hagree.graftAll
  cases hnew : fields.get? name with
  | some node =>
    rw [Fields.graft, hnew] at hgraft
    exact nomatch hgraft
  | none =>
    rw [Fields.graft, hnew] at hgraft
    rw [← Option.some.inj hgraft, ← Fields.set_of_get?_eq_none hnew]
    simp [Fields.declare, hnew, Fields.under, Fields.get?_set_self, Fields.set_set, hown, hinner]

/-- A table that has been opened by its header is there. -/
theorem under_some_of_declare {name : String} {path : List String} {root root' : Fields}
    (hdeclare : root.under (Fields.declare name) path = some root') :
    root'.under some (path ++ [name]) = some root' := by
  have hthere : ∀ fields fields', Fields.declare name fields = some fields' →
      (Fields.declare name fields).bind (Fields.under some [name]) = some fields' := by
    intro fields fields' hfields
    rw [hfields, Option.bind_some]
    have hset : ∃ inner, fields' = Fields.set name (.table .declared inner) fields := by
      rw [Fields.declare] at hfields
      split at hfields
      · exact ⟨_, (Option.some.inj hfields).symm⟩
      · exact ⟨_, (Option.some.inj hfields).symm⟩
      · exact nomatch hfields
    obtain ⟨inner, rfl⟩ := hset
    simp [Fields.under, Fields.get?_set_self, Fields.set_set]
  have hboth := Fields.under_of_under hthere hdeclare
  rw [← Fields.under_bind, hdeclare, Option.bind_some, ← Fields.under_append] at hboth
  exact hboth

/-- A table without a header is implied by the first table inside it. -/
theorem under_of_graft {name : String} {inner : List (String × Outline)}
    (hagree : Agree [] (inner.map Prod.fst)) {fields fields' : Fields}
    (hgraft : fields.graft (name, .table .implied (nodes inner)) = some fields') :
    Fields.under (Fields.graftAll (nodes inner)) [name] fields = some fields' := by
  have hinner : Fields.graftAll (nodes inner) [] = some (nodes inner) := hagree.graftAll
  cases hnew : fields.get? name with
  | some node =>
    rw [Fields.graft, hnew] at hgraft
    exact nomatch hgraft
  | none =>
    rw [Fields.graft, hnew] at hgraft
    rw [← Option.some.inj hgraft, ← Fields.set_of_get?_eq_none hnew]
    simp [Fields.under, hnew, hinner]

mutual

/-- The statements of an outline put the table that it describes in its place. -/
theorem runAll_statements (o : Outline) (hsound : o.IsSound) {path : List String} {name : String}
    {root root' : Fields} (hunder : root.under (Fields.graft · (name, o.node)) path = some root')
    (current : List String) :
    ∃ last, runAll (o.statements (path ++ [name])) ⟨root, current⟩ = some ⟨root', last⟩ := by
  obtain ⟨headed, entries, inner⟩ := o
  obtain ⟨hheaded, hagree, hinner⟩ := hsound
  rw [statements]
  cases headed with
  | false =>
    -- Nothing opens the table itself: the first table inside it stands for it.
    obtain ⟨rfl, hne⟩ := hheaded rfl
    have hinside : root.under (Fields.graftAll (nodes inner)) (path ++ [name]) = some root' := by
      rw [Fields.under_append]
      exact Fields.under_of_under (fun _ _ => under_of_graft hagree) hunder
    exact runAll_innerStatements inner hinner (fun h => absurd h hne) hinside current
  | true =>
    -- One change of the whole document is taken apart into three: header, keys, tables inside.
    have hsteps := Fields.under_of_under (fun _ _ => declare_of_graft hagree) hunder
    rw [← Fields.under_bind (fun fields => (Fields.declare name fields).bind _),
      Option.bind_eq_some_iff] at hsteps
    obtain ⟨filled, hfilled, hinside⟩ := hsteps
    rw [← Fields.under_bind (Fields.declare name), Option.bind_eq_some_iff] at hfilled
    obtain ⟨opened, hopened, hvalues⟩ := hfilled
    rw [← Fields.under_append] at hvalues hinside
    have hheader : Draft.run ⟨root, current⟩ (.header (path ++ [name])) =
        some ⟨opened, path ++ [name]⟩ := by
      simp [Draft.run, Draft.openTable, hopened]
    have hpairs := runAll_pairs entries (under_some_of_declare hopened) hvalues
    obtain ⟨last, hlast⟩ := runAll_innerStatements inner hinner
      (fun _ => Fields.under_some_of_under hvalues) hinside (path ++ [name])
    refine ⟨last, ?_⟩
    rw [if_pos rfl, runAll_append, runAll_append, runAll, List.foldlM_cons, hheader]
    simp only [Option.bind_eq_bind, Option.bind_some, List.foldlM_nil, Option.pure_def, hpairs]
    exact hlast

theorem runAll_innerStatements (inner : List (String × Outline)) (hsound : AreSound inner)
    {path : List String} {root root' : Fields}
    (hthere : inner = [] → root.under some path = some root)
    (hunder : root.under (Fields.graftAll (nodes inner)) path = some root')
    (current : List String) :
    ∃ last, runAll (innerStatements path inner) ⟨root, current⟩ = some ⟨root', last⟩ := by
  match inner with
  | [] =>
    have hsame : root' = root := Option.some.inj (hunder.symm.trans (hthere rfl))
    exact ⟨current, by rw [hsame]; rfl⟩
  | (name, o) :: inner =>
    obtain ⟨ho, hinner⟩ := hsound
    have hstep : Fields.graftAll (nodes ((name, o) :: inner)) = fun fields =>
        (Fields.graft fields (name, o.node)).bind (Fields.graftAll (nodes inner)) := rfl
    rw [hstep, ← Fields.under_bind, Option.bind_eq_some_iff] at hunder
    obtain ⟨mid, hmid, hrest⟩ := hunder
    obtain ⟨middle, hfirst⟩ := runAll_statements o ho hmid current
    obtain ⟨last, hlast⟩ := runAll_innerStatements inner hinner
      (fun _ => Fields.under_some_of_under hmid) hrest middle
    refine ⟨last, ?_⟩
    rw [innerStatements, runAll_append, hfirst]
    exact hlast

end

/-- The statements of a document, of which the root table has no header. -/
def document (entries : List (List String × Value)) (inner : List (String × Outline)) :
    List Statement :=
  pairs entries ++ innerStatements [] inner

/-- The statements of a document build its root table. -/
theorem runAll_document {entries : List (List String × Value)} {inner : List (String × Outline)}
    (hagree : Agree entries (inner.map Prod.fst)) (hinner : AreSound inner) :
    ∃ last, runAll (document entries inner) .empty =
      some ⟨ownFields entries ++ nodes inner, last⟩ := by
  have hpairs : runAll (pairs entries) .empty = some ⟨ownFields entries, []⟩ :=
    runAll_pairs entries rfl hagree.own
  have hroot : Fields.under (Fields.graftAll (nodes inner)) [] (ownFields entries) =
      some (ownFields entries ++ nodes inner) := hagree.graftAll
  obtain ⟨last, hlast⟩ := runAll_innerStatements inner hinner (fun _ => rfl) hroot []
  refine ⟨last, ?_⟩
  rw [document, runAll_append, hpairs]
  exact hlast

end Outline
end AudioLink.Toml
