import CoverageDiff.Matching
import CoverageDiff.Project
import CoverageDiff.Report.Basic

/-!
# CoverageDiff.Comparison

The structural comparison of two coverage trees.

1. A class that one side lacks is reported at the class level and not looked
   into; the same holds for a line and its branches.
2. What both sides have is compared by its derived value: lines by status,
   jumps by outcome, switches by the labels of the covered cases.
3. Every list of the report is ascending by class, line and index.
-/

namespace CoverageDiff

/-! ## Values that are compared -/

/-- The outcome of a jump as a value. -/
def Jump.value (j : Jump) : Value :=
  .outcome j.outcome

/-- The covered cases of a switch as a value. -/
def Switch.value (s : Switch) : Value :=
  .cases s.coveredCases

/-- The status of a line as a value. -/
def Line.value (l : Line) : Value :=
  .status l.status

/-! ## Elements -/

/-- What a pairing is reported as: nothing if both sides have the same value. -/
def Pairing.element? {α : Type} (className : String) (place : α → Place) (value : α → Option Value) :
    Pairing α → Option Element
  | .onlyA a => some { className, kind := .removed, place := place a, before := value a }
  | .onlyB b => some { className, kind := .added, place := place b, after := value b }
  | .both a b =>
    if value a = value b then none
    else some { className, kind := .changed, place := place a, before := value a, after := value b }

/-- The elements of the jumps of two lines. -/
def jumpElements (className : String) (a b : Line) : List Element :=
  (pair a.jumps b.jumps).filterMap <|
    Pairing.element? className (fun j => .branch a.number j.index) fun j => some j.value

/-- The elements of the switches of two lines. -/
def switchElements (className : String) (a b : Line) : List Element :=
  (pair a.switches b.switches).filterMap <|
    Pairing.element? className (fun s => .branch a.number s.index) fun s => some s.value

/-- The elements of the lines of two classes. -/
def lineElements (a b : Class) : List Element :=
  (pair a.lines b.lines).filterMap <|
    Pairing.element? a.name (fun l => .line l.number) fun l => some l.value

/-- The element of a class that one side lacks. -/
def classElement? : Pairing Class → Option Element
  | .onlyA c => some { className := c.name, kind := .removed }
  | .onlyB c => some { className := c.name, kind := .added }
  | .both _ _ => none

/-! ## The comparison -/

/-- Every discrepancy between two coverage trees. -/
def Report.between (a b : Project) : Report where
  classes := (pair a.classes b.classes).filterMap classElement?
  lines := (shared a.classes b.classes).flatMap fun (ca, cb) => lineElements ca cb
  jumps := (shared a.classes b.classes).flatMap fun (ca, cb) =>
    (shared ca.lines cb.lines).flatMap fun (la, lb) => jumpElements ca.name la lb
  switches := (shared a.classes b.classes).flatMap fun (ca, cb) =>
    (shared ca.lines cb.lines).flatMap fun (la, lb) => switchElements ca.name la lb

end CoverageDiff
