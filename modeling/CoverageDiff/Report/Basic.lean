import CoverageDiff.Report.Element

/-!
# CoverageDiff.Report.Basic

A report: the discrepancies between two coverage trees, one list per level.
-/

namespace CoverageDiff

/-- Discrepancies by level. -/
structure Report where
  /-- Classes that only one side has. -/
  classes : List Element := []
  /-- Lines of shared classes. -/
  lines : List Element := []
  /-- Jumps of shared lines. -/
  jumps : List Element := []
  /-- Switches of shared lines. -/
  switches : List Element := []
  deriving DecidableEq

namespace Report

/-- The elements of one level. -/
def level (r : Report) : Level → List Element
  | .classes => r.classes
  | .lines => r.lines
  | .jumps => r.jumps
  | .switches => r.switches

/-- All elements with their levels, in the order of reports. -/
def elements (r : Report) : List (Level × Element) :=
  Level.all.flatMap fun l => (r.level l).map fun e => (l, e)

/-- Number of elements. -/
def size (r : Report) : Nat :=
  (Level.all.map fun l => (r.level l).length).foldr (· + ·) 0

/-- No element at any level: the trees describe equivalent coverage. -/
def isEmpty (r : Report) : Bool :=
  Level.all.all fun l => (r.level l).isEmpty

/-- Number of elements by level. -/
def counts (r : Report) : List (Level × Nat) :=
  Level.all.map fun l => (l, (r.level l).length)

/-- The report with every list changed in the same way. -/
def map (f : List Element → List Element) (r : Report) : Report :=
  ⟨f r.classes, f r.lines, f r.jumps, f r.switches⟩

/-- As many elements as are listed. -/
theorem length_elements (r : Report) : r.elements.length = r.size := by
  simp [elements, size, Level.all]

/-- A report is empty exactly if it has no elements. -/
theorem isEmpty_iff (r : Report) : r.isEmpty = true ↔ r.size = 0 := by
  simp [isEmpty, size, Level.all]

end Report

end CoverageDiff
