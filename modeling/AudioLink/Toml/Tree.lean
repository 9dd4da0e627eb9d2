import AudioLink.Data.Value

/-
Documents of TOML while they are put together.

A table can come about in several ways, and each may be opened again in others only. A table that a
header names is `declared`; one that stands on the way to such a table is `implied`, and a header
may still name it; one that stands on the way to a dotted key is `dotted`, and only further dotted
keys may add to it. A list of tables grows by headers and its last table is the open one.
-/
set_option autoImplicit false

namespace AudioLink.Toml

/-- How a table came about. -/
inductive Origin where
  /-- A header named it. -/
  | declared
  /-- It stands on the way to a table that a header named. -/
  | implied
  /-- It stands on the way to a dotted key. -/
  | dotted
  deriving DecidableEq, Repr

/-- A part of a document. -/
inductive Node where
  /-- A finished value. -/
  | value (v : Value)
  /-- A table. -/
  | table (origin : Origin) (fields : List (String × Node))
  /-- A list of tables that headers have named; the last one comes first. -/
  | tables (last : List (String × Node)) (before : List (List (String × Node)))
  deriving Inhabited

/-- The fields of a table. -/
abbrev Fields := List (String × Node)

namespace Fields

/-- The node of a name. -/
def get? (fields : Fields) (name : String) : Option Node :=
  (fields.find? (·.1 = name)).map (·.2)

/-- Gives a name its node: in its place if it has one, and behind the others if it is new. -/
def set (name : String) (node : Node) : Fields → Fields
  | [] => [(name, node)]
  | x :: rest => if x.1 = name then (name, node) :: rest else x :: set name node rest

/-! ## Headers -/

/-- Changes the table at the end of a path of headers: the path leads through tables of any origin
and through the last table of a list, and makes the tables that are missing. -/
def under (change : Fields → Option Fields) : List String → Fields → Option Fields
  | [], fields => change fields
  | name :: path, fields =>
    match get? fields name with
    | none => (under change path []).map fun inner => set name (.table .implied inner) fields
    | some (.table origin inner) =>
      (under change path inner).map fun inner => set name (.table origin inner) fields
    | some (.tables last before) =>
      (under change path last).map fun last => set name (.tables last before) fields
    | some (.value _) => none

/-- Opens a table by a header: it is new, or it was only implied so far. -/
def declare (name : String) (fields : Fields) : Option Fields :=
  match get? fields name with
  | none => some (set name (.table .declared []) fields)
  | some (.table .implied inner) => some (set name (.table .declared inner) fields)
  | some _ => none

/-- Opens the next table of a list by a header. -/
def declareNext (name : String) (fields : Fields) : Option Fields :=
  match get? fields name with
  | none => some (set name (.tables [] []) fields)
  | some (.tables last before) => some (set name (.tables [] (last :: before)) fields)
  | some _ => none

/-! ## Keys -/

/-- Gives a new name a value. -/
def put (name : String) (v : Value) (fields : Fields) : Option Fields :=
  match get? fields name with
  | none => some (set name (.value v) fields)
  | some _ => none

/-- Gives a dotted key a value. The path leads through tables that no header named; the one that
takes the value was made by dotted keys. `inDotted` says whether the table at hand was. -/
def assign (name : String) (v : Value) (inDotted : Bool) : List String → Fields → Option Fields
  | [], fields => if inDotted then put name v fields else none
  | step :: path, fields =>
    match get? fields step with
    | none => (assign name v true path []).map fun inner => set step (.table .dotted inner) fields
    -- A table with a header of its own is closed to the dotted keys of other tables.
    | some (.table .declared _) => none
    | some (.table origin inner) =>
      (assign name v (origin = .dotted) path inner).map fun inner =>
        set step (.table origin inner) fields
    | some (.tables last before) =>
      (assign name v false path last).map fun last => set step (.tables last before) fields
    | some (.value _) => none

/-- Gives a key of one or more parts a value. -/
def assignKey (path : List String) (name : String) (v : Value) (fields : Fields) : Option Fields :=
  if path = [] then put name v fields else assign name v false path fields

end Fields

/-! ## The finished document -/

mutual

/-- The value of a node. -/
def Node.toValue : Node → Value
  | .value v => v
  | .table _ fields => .table (fieldValues fields)
  | .tables last before => .list (tableValues before ++ [.table (fieldValues last)])

/-- The named values of the fields of a table. -/
def fieldValues : List (String × Node) → List (String × Value)
  | [] => []
  | (name, node) :: rest => (name, node.toValue) :: fieldValues rest

/-- The values of tables that are listed from the last one to the first. -/
def tableValues : List (List (String × Node)) → List Value
  | [] => []
  | fields :: rest => tableValues rest ++ [.table (fieldValues fields)]

end

end AudioLink.Toml
