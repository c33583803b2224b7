import CoverageDiff.Files.Path
import CoverageDiff.Text.Utf8

/-!
# CoverageDiff.Files.Tree

Files and folders, and what reading and writing them does.

1. A place is a list of names from the root folder down.  A tree records what
   stands at some places; every place above a recorded one is a folder.
2. A path is followed name by name.  Each name but the last has to lead to a
   folder that exists, also before a double dot, which leads one place up.
3. Writing a file first makes the folders above it that are missing.
4. Everything may be read and written, and there is room for it: permissions,
   links, devices and what else happens to files in the meantime are left out.
-/

namespace CoverageDiff.Files

/-- A place: the names from the root folder down. -/
abbrev Location := List String

/-- What stands at a place. -/
inductive Stored where
  /-- A file with its bytes. -/
  | file (bytes : List UInt8)
  | folder
  deriving DecidableEq

/-- Files and folders. -/
structure Tree where
  /-- What stands at the recorded places. -/
  entries : List (Location × Stored) := []
  deriving DecidableEq

/-- Why a path cannot be used. -/
inductive PathError where
  /-- Something on the way is missing. -/
  | missing
  /-- Something on the way is a file. -/
  | notFolder
  /-- A name or the whole path is too long. -/
  | nameTooLong
  /-- A folder stands where a file is needed. -/
  | isFolder
  /-- A file stands where a folder is needed. -/
  | isFile
  deriving DecidableEq

namespace Tree

/-! ## Places -/

/-- What stands at a place. -/
def at? (t : Tree) (place : Location) : Option Stored :=
  match t.entries.find? fun e => e.1 == place with
  | some e => some e.2
  | none =>
    if place.isEmpty || t.entries.any fun e => place.isPrefixOf e.1 then some .folder else none

/-- The tree with something else at a place. -/
def set (t : Tree) (place : Location) (s : Stored) : Tree where
  entries := (place, s) :: t.entries.filter fun e => e.1 != place

/-- What was put at a place stands there. -/
@[simp] theorem at?_set (t : Tree) (place : Location) (s : Stored) :
    (t.set place s).at? place = some s := by
  simp [at?, set]

/-! ## Following a path -/

/-- The longest name, in bytes. -/
def maxName : Nat := 255

/-- The longest path, in bytes. -/
def maxPath : Nat := 4095

/-- How many bytes a text takes. -/
def byteLength (s : String) : Nat :=
  (Text.encodeUtf8 s.toList).length

/-- The place that one name leads to from a folder. -/
def step (t : Tree) (place : Location) (name : String) : Except PathError Location :=
  match t.at? place with
  | none => .error .missing
  | some (.file _) => .error .notFolder
  | some .folder =>
    if name = ".." then .ok place.dropLast
    else if maxName < byteLength name then .error .nameTooLong
    else .ok (place ++ [name])

/-- The place where a path starts, seen from the current folder. -/
def startOf (current : Location) (p : Path) : Location :=
  match p.anchor with
  | .here => current
  | _ => []

/-- The place that a path leads to; nothing need stand there. -/
def locate (t : Tree) (current : Location) (p : Path) : Except PathError Location :=
  if maxPath < byteLength p.text then .error .nameTooLong
  else p.names.foldlM t.step (startOf current p)

/-- What a path leads to. -/
def find (t : Tree) (current : Location) (p : Path) : Except PathError (Location × Stored) := do
  let place ← t.locate current p
  match t.at? place with
  | some s => return (place, s)
  | none => throw .missing

/-- Whether something stands at the end of a path.  That a name is too long is not an answer. -/
def existsAt (t : Tree) (current : Location) (p : Path) : Except PathError Bool :=
  match t.find current p with
  | .ok _ => .ok true
  | .error .nameTooLong => .error .nameTooLong
  | .error _ => .ok false

/-! ## Reading -/

/-- The bytes of the file that a path leads to. -/
def read (t : Tree) (current : Location) (p : Path) : Except PathError (List UInt8) := do
  match ← t.find current p with
  | (_, .file bytes) => return bytes
  | (_, .folder) => throw .isFolder

/-! ## Writing -/

/-- The tree with a folder at the end of a path, where nothing may stand yet. -/
def makeOne (t : Tree) (current : Location) (p : Path) : Except PathError Tree := do
  let place ← t.locate current p
  match t.at? place with
  | some _ => throw .isFile
  | none => return t.set place .folder

/-- Keeps the tree if a folder stands at the end of a path already. -/
def keepFolder (t : Tree) (current : Location) (p : Path) (e : PathError) : Except PathError Tree :=
  match t.find current p with
  | .ok (_, .folder) => .ok t
  | _ => .error e

/-- The tree with a folder at the end of a path and all missing folders above it. -/
def makeFolder (t : Tree) (current : Location) (p : Path) : Except PathError Tree :=
  match t.makeOne current p with
  | .ok made => .ok made
  | .error .missing =>
    if _h : p.names = [] then .error .missing
    else
      match makeFolder t current p.parent with
      | .error e => .error e
      | .ok above =>
        -- after a double dot the folder itself can be one of those just made
        match above.makeOne current p with
        | .ok made => .ok made
        | .error e => above.keepFolder current p e
  | .error e => t.keepFolder current p e
termination_by p.names.length
decreasing_by
  have : 0 < p.names.length := List.length_pos_iff.2 _h
  rw [Path.length_parent_names]
  omega

/-- The tree with a file of these bytes at the end of a path, whose folder exists. -/
def writeFile (t : Tree) (current : Location) (p : Path) (bytes : List UInt8) :
    Except PathError Tree := do
  let place ← t.locate current p
  match t.at? place with
  | some .folder => throw .isFolder
  | _ => return t.set place (.file bytes)

/-- The tree with a file of these bytes at the end of a path, and the folders above it. -/
def write (t : Tree) (current : Location) (p : Path) (bytes : List UInt8) : Except PathError Tree := do
  (← t.makeFolder current p.parent).writeFile current p bytes

/-! ## Going up -/

/-- The place a path leads to by its names alone, whatever stands on the way. -/
def resolve (current : Location) (p : Path) : Location :=
  p.names.foldl (fun place name => if name = ".." then place.dropLast else place ++ [name])
    (startOf current p)

/-- A place and all places above it, the nearest first. -/
def upwards (place : Location) : List Location :=
  (List.range (place.length + 1)).reverse.map place.take

/-- The path of a place. -/
def pathOf (place : Location) : Path where
  anchor := .root
  names := place

end Tree

/-! ## Seen from a folder -/

/-- Files, and the folder that relative paths start from. -/
structure Workspace where
  /-- The files. -/
  tree : Tree := {}
  /-- The current folder. -/
  current : Location := []
  deriving DecidableEq

namespace Workspace

/-- Whether something stands at the end of a path. -/
def existsAt (w : Workspace) (p : Path) : Except PathError Bool :=
  w.tree.existsAt w.current p

/-- The bytes of the file that a path leads to. -/
def read (w : Workspace) (p : Path) : Except PathError (List UInt8) :=
  w.tree.read w.current p

/-- The workspace with a file of these bytes at the end of a path. -/
def write (w : Workspace) (p : Path) (bytes : List UInt8) : Except PathError Workspace := do
  return { w with tree := ← w.tree.write w.current p bytes }

end Workspace

end CoverageDiff.Files
