import CoverageDiff.Report.Basic
import CoverageDiff.Report.Origin
import CoverageDiff.Styled.Table

/-!
# CoverageDiff.Report.Listing

A report for readers: where both sides came from, and one table for every
level that has elements.

A cell may hold style tags, and a class name is not protected against being
read as such.
-/

namespace CoverageDiff

open Styled

/-- The colour of a kind. -/
def Kind.colorName : Kind → String
  | .added => "green"
  | .removed => "red"
  | .changed => "yellow"

/-- The heading of a level. -/
def Level.title : Level → String
  | .classes => "Classes"
  | .lines => "Lines"
  | .jumps => "Jumps"
  | .switches => "Switches"

/-- Where a side came from, in one line. -/
def Side.label (s : Side) (default : String) : String :=
  let reports := ", ".intercalate s.reports
  let mode := match s.mode with
    | some m => " (" ++ m.name ++ ")"
    | none => ""
  let lines := match s.lines with
    | some c => ": " ++ toString c.total ++ " lines, " ++ toString c.full ++ " full, "
      ++ toString c.partly ++ " partial, " ++ toString c.none ++ " none"
    | none => ""
  (if reports.isEmpty then default else reports) ++ mode ++ lines

namespace Listing

/-- Whether a level has lines. -/
def hasLines : Level → Bool
  | .classes => false
  | _ => true

/-- Whether a level has indexes. -/
def hasIndexes : Level → Bool
  | .jumps => true
  | .switches => true
  | _ => false

/-- The columns of a level. -/
def columns (level : Level) : List Column :=
  [{ header := "Class" }]
    ++ (if hasLines level then [{ header := "Line", alignRight := true }] else [])
    ++ (if hasIndexes level then [{ header := "Index", alignRight := true }] else [])
    ++ [{ header := "Kind" }]
    ++ (if hasLines level then [{ header := "Before" }, { header := "After" }] else [])

/-- A number that may be absent. -/
def numberText : Option Int → String
  | some n => toString n
  | none => "None"

/-- The texts of the cells of an element. -/
def cellTexts (level : Level) (e : Element) : List String :=
  [e.className]
    ++ (if hasLines level then [numberText e.place.line?] else [])
    ++ (if hasIndexes level then [numberText e.place.index?] else [])
    ++ ["[" ++ e.kind.colorName ++ "]" ++ e.kind.name ++ "[/]"]
    ++ (if hasLines level then [Value.text? e.before, Value.text? e.after] else [])

/-- The cells of an element. -/
def row (level : Level) (e : Element) : Except MarkupError (List (List Piece)) :=
  (cellTexts level e).mapM fun text => pieces? text.toList

/-- The table of a level. -/
def table (level : Level) (elements : List Element) : Except MarkupError Table :=
  (elements.mapM (row level)).map fun rows => ⟨columns level, rows⟩

/-- The heading and the table of a level. -/
def block (color : Bool) (level : Level) (elements : List Element) : Except MarkupError String :=
  let heading := level.title ++ " (" ++ toString elements.length ++ ")"
  (table level elements).map fun t =>
    (if color then Style.bold.paint heading else heading) ++ "\n" ++ t.render color

/-- The two lines on where the sides came from. -/
def header (origin : Origin) : String :=
  "A: " ++ origin.baseline.label "baseline" ++ "\nB: " ++ origin.current.label "current" ++ "\n\n"

/-- The listing of a report. -/
def render (color : Bool) (r : Report) (origin : Origin) : Except MarkupError String :=
  if r.isEmpty then .ok (header origin ++ "Coverage is equivalent.")
  else
    let levels := Level.all.filter fun l => !(r.level l).isEmpty
    (levels.mapM fun l => block color l (r.level l)).map fun blocks =>
      header origin ++ "\n\n".intercalate blocks ++ "\n\n" ++ toString r.size
        ++ " difference(s) found."

end Listing

end CoverageDiff
