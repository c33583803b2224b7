import CoverageDiff.Status

/-!
# CoverageDiff.Report.Origin

Where the two sides of a comparison came from.
-/

namespace CoverageDiff

/-- How the program under test was instrumented. -/
inductive Mode where
  | sampling
  /-- The second sampling strategy. -/
  | newSampling
  | tracing
  /-- The second tracing strategy. -/
  | newTracing
  deriving DecidableEq

namespace Mode

/-- The word for a mode. -/
def name : Mode → String
  | sampling => "sampling"
  | newSampling => "new-sampling"
  | tracing => "tracing"
  | newTracing => "new-tracing"

/-- All modes. -/
def all : List Mode :=
  [sampling, newSampling, tracing, newTracing]

/-- The mode a word stands for. -/
def ofName? (s : String) : Option Mode :=
  all.find? fun m => m.name == s

end Mode

/-- Where one side came from. -/
structure Side where
  /-- The report files that were merged. -/
  reports : List String := []
  /-- How they were made. -/
  mode : Option Mode := none
  /-- How many lines have each status. -/
  lines : Option StatusCounts := none
  deriving DecidableEq

/-- Where both sides came from. -/
structure Origin where
  /-- The first side. -/
  baseline : Side := {}
  /-- The second side. -/
  current : Side := {}
  deriving DecidableEq

end CoverageDiff
