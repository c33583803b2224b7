import CoverageDiff.Markup.Node
import CoverageDiff.Project

/-!
# CoverageDiff.Cobertura.Writer

Coverage trees as coverage documents: every count is written out, so that
nothing has to be derived when the document is read.
-/

namespace CoverageDiff.Cobertura

open Markup

/-- Numbers with blanks between them. -/
def numbersText (ns : List Int) : String :=
  " ".intercalate (ns.map toString)

/-- A jump as a condition. -/
def ofJump (j : Jump) : Node :=
  .element "condition"
    [("number", toString j.index), ("type", "jump"), ("true-hits", toString j.trueHits),
      ("false-hits", toString j.falseHits)] []

/-- A switch as a condition. -/
def ofSwitch (s : Switch) : Node :=
  .element "condition"
    [("number", toString s.index), ("type", "switch"), ("keys", numbersText s.keys),
      ("hits", numbersText s.hits), ("default-hits", toString s.defaultHits)] []

/-- A line as a row. -/
def ofLine (l : Line) : Node :=
  .element "line"
    ([("number", toString l.number), ("hits", toString l.hits)]
      ++ (l.method.map fun m => ("method", m)).toList)
    [.element "conditions" [] (l.jumps.map ofJump ++ l.switches.map ofSwitch)]

/-- A class with its rows. -/
def ofClass (c : Class) : Node :=
  .element "class" [("name", c.name)] [.element "lines" [] (c.lines.map ofLine)]

/-- A project as a document. -/
def ofProject (p : Project) : Node :=
  .element "coverage" [] (p.classes.map ofClass)

end CoverageDiff.Cobertura
