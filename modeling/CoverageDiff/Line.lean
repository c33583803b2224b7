import CoverageDiff.Branch
import CoverageDiff.Status

/-!
# CoverageDiff.Line

One source line: its count, the method it belongs to, and its branches.

1. Branches are filed by index; setting one again replaces it.
2. The status of a line: with no hit it is none, unless a branch was touched;
   with hits it is full if every branch is fully covered.  All else is partly.
3. Merging adds counts; the method already known is kept; branches meet by
   index.
-/

namespace CoverageDiff

/-- Coverage of a source line. -/
structure Line where
  /-- Line number. -/
  number : Int
  /-- How often the line was executed. -/
  hits : Int := 0
  /-- The method the line belongs to. -/
  method : Option String := none
  /-- Jumps, ascending by index. -/
  jumps : List Jump := []
  /-- Switches, ascending by index. -/
  switches : List Switch := []
  deriving DecidableEq

namespace Line

/-- Lines are filed by number. -/
instance : Filed Line Int := ⟨number⟩

@[simp] theorem key_eq (l : Line) : key l = l.number := rfl

/-! ## Branches -/

/-- The line with a jump put at its index. -/
def setJump (l : Line) (j : Jump) : Line :=
  { l with jumps := Shelf.put j l.jumps }

/-- The line with a switch put at its index. -/
def setSwitch (l : Line) (s : Switch) : Line :=
  { l with switches := Shelf.put s l.switches }

/-- The jump at an index. -/
def jump? (l : Line) (index : Int) : Option Jump :=
  Shelf.find? index l.jumps

/-- The switch at an index. -/
def switch? (l : Line) (index : Int) : Option Switch :=
  Shelf.find? index l.switches

/-! ## Status -/

/-- Some branch was touched. -/
def anyTouched (l : Line) : Bool :=
  l.jumps.any Jump.touched || l.switches.any Switch.touched

/-- Every branch is fully covered. -/
def allCovered (l : Line) : Bool :=
  l.jumps.all Jump.fullyCovered && l.switches.all Switch.fullyCovered

/-- The derived coverage of the line. -/
def status (l : Line) : Status :=
  if l.hits = 0 then (if l.anyTouched then .partly else .none)
  else if l.allCovered then .full
  else .partly

/-! ## Merging -/

/-- The line with the counts and branches of both. -/
def merge (a b : Line) : Line where
  number := a.number
  hits := a.hits + b.hits
  method := a.method <|> b.method
  jumps := Shelf.merge Jump.merge a.jumps b.jumps
  switches := Shelf.merge Switch.merge a.switches b.switches

@[simp] theorem number_merge (a b : Line) : (a.merge b).number = a.number := rfl

@[simp] theorem number_setJump (l : Line) (j : Jump) : (l.setJump j).number = l.number := rfl

@[simp] theorem number_setSwitch (l : Line) (s : Switch) :
    (l.setSwitch s).number = l.number := rfl

end Line

end CoverageDiff
