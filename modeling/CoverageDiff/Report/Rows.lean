import CoverageDiff.Report.Basic

/-!
# CoverageDiff.Report.Rows

A report as rows for searching: level, location, kind and the two values, one
element per row, the fields separated by tabs.
-/

namespace CoverageDiff

/-- The row of an element. -/
def Element.row (level : Level) (e : Element) : String :=
  level.name ++ "\t" ++ e.location ++ "\t" ++ e.kind.name ++ "\t" ++ Value.text? e.before
    ++ " -> " ++ Value.text? e.after

/-- The rows of a report. -/
def Report.rows (r : Report) : List String :=
  r.elements.map fun (level, e) => e.row level

/-- The rows as one text without a final line end. -/
def Report.rowsText (r : Report) : String :=
  "\n".intercalate r.rows

end CoverageDiff
