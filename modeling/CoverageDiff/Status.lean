/-!
# CoverageDiff.Status

How well a line is covered, as derived from its counts.
-/

namespace CoverageDiff

/-- The derived coverage of a line. -/
inductive Status where
  /-- Neither the line nor any of its branches was hit. -/
  | none
  /-- Something was hit, but not everything. -/
  | partly
  /-- The line and every outcome of its branches were hit. -/
  | full
  deriving DecidableEq

namespace Status

/-- The word for a status in reports. -/
def name : Status → String
  | none => "NONE"
  | partly => "PARTIAL"
  | full => "FULL"

/-- The status a word stands for. -/
def ofName? (s : String) : Option Status :=
  if s = "NONE" then some none
  else if s = "PARTIAL" then some partly
  else if s = "FULL" then some full
  else Option.none

/-- A status is read back from its word. -/
@[simp] theorem ofName?_name (s : Status) : ofName? s.name = some s := by
  cases s <;> decide

/-- Position in the order none, partly, full. -/
def rank : Status → Nat
  | none => 0
  | partly => 1
  | full => 2

end Status

/-- Number of lines of each status. -/
structure StatusCounts where
  /-- Lines not covered. -/
  none : Int
  /-- Lines covered in part. -/
  partly : Int
  /-- Lines covered in full. -/
  full : Int
  deriving DecidableEq

namespace StatusCounts

/-- Number of lines of any status. -/
def total (c : StatusCounts) : Int :=
  c.none + c.partly + c.full

/-- The counts of a list of statuses. -/
def ofList (statuses : List Status) : StatusCounts :=
  ⟨statuses.count .none, statuses.count .partly, statuses.count .full⟩

end StatusCounts

end CoverageDiff
