import CoverageDiff.Toml.Value

/-!
# CoverageDiff.Toml.Table

Tables that grow while a document is read.

1. A heading opens the table at its key path.  Tables on the way that are
   missing are made; they can still be opened by a heading of their own, once.
2. A heading in double brackets adds a table to the list at its key path.  A
   path that passes such a list goes on in its last table.
3. A pair of key and value goes into the open table, along the key's path.
   Tables that a key's path makes or enters can be entered by further keys of
   the same section, but not opened or entered from another one.
4. No key is given twice, and nothing is added to a value.
-/

namespace CoverageDiff.Toml

/-- How a table came about, which decides who may add to it. -/
inductive Opening where
  /-- On the way to another table; a heading may still open it. -/
  | implied
  /-- By the path of a key in a section. -/
  | keyed (part : Nat)
  /-- By a heading. -/
  | declared
  deriving DecidableEq

/-- What stands at a key while a document is read. -/
inductive Entry where
  /-- A value that is complete. -/
  | value (v : Value)
  | table (opening : Opening) (fields : List (String × Entry))
  /-- A list of tables, of which only the last grows. -/
  | tables (earlier : List Value) (last : List (String × Entry))

/-- What stands at the keys of a table that grows. -/
abbrev Fields := List (String × Entry)

/-! ## The values -/

mutual

/-- The value that an entry has grown to. -/
def Entry.toValue : Entry → Value
  | .value v => v
  | .table _ fields => .table (fieldValues fields)
  | .tables earlier last => .list (earlier ++ [.table (fieldValues last)])

/-- The values of a table that has grown. -/
def fieldValues : List (String × Entry) → List (String × Value)
  | [] => []
  | (key, e) :: fields => (key, e.toValue) :: fieldValues fields

end

namespace Fields

/-! ## One key -/

/-- What stands at a key. -/
def at? (fields : Fields) (key : String) : Option Entry :=
  fields.lookup key

/-- The table with something else at a key, which keeps its position. -/
def set (fields : Fields) (key : String) (e : Entry) : Fields :=
  match fields with
  | [] => [(key, e)]
  | (k, old) :: more => if k = key then (k, e) :: more else (k, old) :: set more key e

/-! ## Along a path -/

/-- Changes the table at the end of a heading's path. -/
def underHeading (change : Fields → Option Fields) (fields : Fields) :
    List String → Option Fields
  | [] => change fields
  | key :: path =>
    match fields.at? key with
    | none => (underHeading change [] path).map fun inner => fields.set key (.table .implied inner)
    | some (.table opening inner) =>
      (underHeading change inner path).map fun inner => fields.set key (.table opening inner)
    | some (.tables earlier last) =>
      (underHeading change last path).map fun last => fields.set key (.tables earlier last)
    | some (.value _) => none

/-- Changes the table at the end of the path of a key in a section. -/
def underKey (part : Nat) (change : Fields → Option Fields) (fields : Fields) :
    List String → Option Fields
  | [] => change fields
  | key :: path =>
    let enter := fun inner =>
      (underKey part change inner path).map fun inner => fields.set key (.table (.keyed part) inner)
    match fields.at? key with
    | none => enter []
    | some (.table .implied inner) => enter inner
    | some (.table (.keyed other) inner) => if other = part then enter inner else none
    -- a table with a heading of its own, a list of tables, or a value
    | _ => none

/-! ## Statements -/

/-- The table with a table opened at a key. -/
def openTable (key : String) (fields : Fields) : Option Fields :=
  match fields.at? key with
  | none => some (fields.set key (.table .declared []))
  | some (.table .implied inner) => some (fields.set key (.table .declared inner))
  | some _ => none

/-- The table with one more table in the list at a key. -/
def addTable (key : String) (fields : Fields) : Option Fields :=
  match fields.at? key with
  | none => some (fields.set key (.tables [] []))
  | some (.tables earlier last) =>
    some (fields.set key (.tables (earlier ++ [.table (fieldValues last)]) []))
  | some _ => none

/-- The table with a value at a key that has none. -/
def give (key : String) (v : Value) (fields : Fields) : Option Fields :=
  match fields.at? key with
  | none => some (fields.set key (.value v))
  | some _ => none

/-- The last key of a path and those before it. -/
def splitPath (path : List String) : List String × String :=
  (path.dropLast, path.getLastD "")

/-- The table with a value at the end of a key's path. -/
def assign (part : Nat) (path : List String) (v : Value) (fields : Fields) : Option Fields :=
  let (above, key) := splitPath path
  fields.underKey part (give key v) above

end Fields

/-! ## Tables in one line -/

/-- The table of pairs in braces: one section without headings. -/
def tableOfPairs? (pairs : List (List String × Value)) : Option Value :=
  (pairs.foldlM (fun (fields : Fields) (path, v) => fields.assign 0 path v) []).map fun fields =>
    .table (fieldValues fields)

/-! ## Documents -/

/-- A statement of a document. -/
inductive Statement where
  /-- Opens the table at a path. -/
  | heading (path : List String)
  /-- Adds a table to the list at a path. -/
  | listHeading (path : List String)
  /-- Gives a value to a key of the open table. -/
  | pair (path : List String) (v : Value)

/-- A document while it is read. -/
structure Draft where
  /-- The outermost table. -/
  fields : Fields := []
  /-- The path of the open table. -/
  heading : List String := []
  /-- The number of the section. -/
  part : Nat := 0

/-- The draft with a new section, whose table a heading makes at the last key of its path. -/
def Draft.start (d : Draft) (path : List String) (make : String → Fields → Option Fields) :
    Option Draft :=
  let (above, key) := Fields.splitPath path
  (d.fields.underHeading (make key) above).map fun fields => ⟨fields, path, d.part + 1⟩

/-- The draft after one more statement. -/
def Draft.add (d : Draft) : Statement → Option Draft
  | .heading path => d.start path Fields.openTable
  | .listHeading path => d.start path Fields.addTable
  | .pair path v =>
    (d.fields.underHeading (Fields.assign d.part path v) d.heading).map fun fields =>
      { d with fields }

/-- The table that a document's statements make. -/
def tableOfStatements? (statements : List Statement) : Option (List (String × Value)) :=
  (statements.foldlM Draft.add {}).map fun d => fieldValues d.fields

end CoverageDiff.Toml
