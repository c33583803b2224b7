/-!
# CoverageDiff.Files.Path

Paths of files as texts name them.

1. A path is a list of names separated by slashes.  Empty names and single
   dots are dropped, so `d//e/./a` and `d/e/a` are one path; double dots are
   kept, because what they lead to depends on the files.
2. A path that starts with a slash is absolute.  Exactly two slashes at the
   start are kept as two, any other number as one.
3. A relative path without names is shown as a dot.
-/

namespace CoverageDiff.Files

/-- Where the names of a path start. -/
inductive Anchor where
  /-- The current folder. -/
  | here
  /-- The root folder. -/
  | root
  /-- The root folder, written with two slashes. -/
  | doubleRoot
  deriving DecidableEq

/-- What is written in front of the names. -/
def Anchor.text : Anchor → String
  | here => ""
  | root => "/"
  | doubleRoot => "//"

/-- A path: where it starts, and the names on the way. -/
structure Path where
  /-- Where the names start. -/
  anchor : Anchor := .here
  /-- The names, none of them empty or a single dot. -/
  names : List String := []
  deriving DecidableEq

namespace Path

/-! ## Reading -/

/-- The pieces of a text between slashes. -/
def pieces (text : List Char) : List (List Char) :=
  text.foldr
    (fun c ps =>
      if c = '/' then [] :: ps
      else
        match ps with
        | p :: more => (c :: p) :: more
        | [] => [[c]])
    [[]]

/-- Whether a piece is a name. -/
def isName (piece : List Char) : Bool :=
  !piece.isEmpty && piece != ['.']

/-- Where a text starts. -/
def anchorOf : List Char → Anchor
  | '/' :: '/' :: '/' :: _ => .root
  | '/' :: '/' :: _ => .doubleRoot
  | '/' :: _ => .root
  | _ => .here

/-- The path that a text names. -/
def ofText (text : String) : Path where
  anchor := anchorOf text.toList
  names := ((pieces text.toList).filter isName).map String.ofList

/-! ## Showing -/

/-- The path as it is shown. -/
def text (p : Path) : String :=
  if p.anchor = .here && p.names.isEmpty then "."
  else p.anchor.text ++ String.intercalate "/" p.names

/-! ## Parts -/

/-- The path without its last name. -/
def parent (p : Path) : Path :=
  { p with names := p.names.dropLast }

/-- The path that goes on with a name. -/
def child (p : Path) (name : String) : Path :=
  { p with names := p.names ++ [name] }

/-- Going up from a path takes away one name. -/
theorem length_parent_names (p : Path) : p.parent.names.length = p.names.length - 1 := by
  simp [parent]

end Path

end CoverageDiff.Files
