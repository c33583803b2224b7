import CoverageDiff.Line
import CoverageDiff.Text.Quoted

/-!
# CoverageDiff.Project

The coverage tree: a project holds classes by name, a class holds lines by
number.

1. A class or line that is asked for by key is made if it is missing; line
   numbers below one are refused.
2. Merging joins what has the same key and copies the rest.
3. A filtered project keeps the classes whose name passes.
4. `lineStatuses` joins several classes; a line number takes its status from
   the first class that has it.
-/

namespace CoverageDiff

/-- Why an operation on a coverage tree is refused. -/
inductive TreeError where
  /-- A line number below one. -/
  | linePosition (number : Int) (className : String)
  /-- A switch with `keys` keys and `hits` counts. -/
  | unevenSwitch (keys hits : Nat)
  /-- A class name that is taken. -/
  | duplicateClass (name : String)
  deriving DecidableEq

namespace TreeError

/-- The wording of an error. -/
def message : TreeError → String
  | linePosition number className =>
    "line numbers must be positive, got " ++ toString number ++ " in " ++ className
  | unevenSwitch keys hits =>
    "SwitchData.keys and hits must have equal length, got " ++ toString keys ++ " and "
      ++ toString hits
  | duplicateClass name => "duplicate class name: " ++ Text.quote name

/-- A refused switch as an error of the tree. -/
def ofUneven (e : UnevenSwitch) : TreeError :=
  unevenSwitch e.keys e.hits

end TreeError

/-! ## Classes -/

/-- Coverage of one class. -/
structure Class where
  /-- Fully qualified name. -/
  name : String
  /-- Lines, ascending by number. -/
  lines : List Line := []
  deriving DecidableEq

namespace Class

/-- Classes are filed by name. -/
instance : Filed Class String := ⟨name⟩

@[simp] theorem key_eq (c : Class) : key c = c.name := rfl

/-- The line with a number. -/
def line? (c : Class) (number : Int) : Option Line :=
  Shelf.find? number c.lines

/-- The line with a number, or a new one that belongs to `method`. -/
def lineOrNew (c : Class) (number : Int) (method : Option String) : Except TreeError Line :=
  match c.line? number with
  | some l => .ok l
  | none =>
    if number < 1 then .error (.linePosition number c.name)
    else .ok { number, method }

/-- The class with a line put at its number. -/
def putLine (c : Class) (l : Line) : Class :=
  { c with lines := Shelf.put l c.lines }

/-- The class with the lines of both. -/
def merge (a b : Class) : Class :=
  { a with lines := Shelf.merge Line.merge a.lines b.lines }

/-- The statuses of the lines, ascending by number. -/
def statuses (c : Class) : List Status :=
  c.lines.map Line.status

@[simp] theorem name_putLine (c : Class) (l : Line) : (c.putLine l).name = c.name := rfl

@[simp] theorem name_merge (a b : Class) : (a.merge b).name = a.name := rfl

end Class

/-! ## Projects -/

/-- A coverage tree. -/
structure Project where
  /-- Classes, ascending by name. -/
  classes : List Class := []
  deriving DecidableEq

namespace Project

/-- The project without classes. -/
def empty : Project := {}

/-- The class with a name. -/
def class? (p : Project) (name : String) : Option Class :=
  Shelf.find? name p.classes

/-- The class with a name, or a new one. -/
def classOrNew (p : Project) (name : String) : Class :=
  (p.class? name).getD { name }

/-- The project with a class put at its name. -/
def putClass (p : Project) (c : Class) : Project :=
  { p with classes := Shelf.put c p.classes }

/-- The project with a class whose name must be new. -/
def addClass (p : Project) (c : Class) : Except TreeError Project :=
  match p.class? c.name with
  | some _ => .error (.duplicateClass c.name)
  | none => .ok (p.putClass c)

/-- The project with a class joined to the one of the same name. -/
def mergeClass (p : Project) (c : Class) : Project :=
  { p with classes := Shelf.putWith Class.merge c p.classes }

/-- The project with the classes of both. -/
def merge (p q : Project) : Project :=
  { p with classes := Shelf.merge Class.merge p.classes q.classes }

/-- All projects of a list merged, first to last. -/
def mergeAll (ps : List Project) : Project :=
  ps.foldl merge empty

/-- The project with only the classes whose name passes. -/
def filter (p : Project) (allow : String → Bool) : Project :=
  { p with classes := p.classes.filter fun c => allow c.name }

/-- The names of the classes, ascending. -/
def classNames (p : Project) : List String :=
  p.classes.map Class.name

/-- How many lines have each status. -/
def statusCounts (p : Project) : StatusCounts :=
  .ofList (p.classes.flatMap Class.statuses)

/-! ## Statuses over several classes -/

/-- The lines of a class as number and status, joined to those already known. -/
def addStatuses (known : List (Int × Status)) (c : Class) : List (Int × Status) :=
  Shelf.merge (fun old _ => old) known (c.lines.map fun l => (l.number, l.status))

/-- Number and status of every line of the named classes, ascending by number. -/
def lineStatuses (p : Project) (names : List String) : List (Int × Status) :=
  (names.filterMap p.class?).foldl addStatuses []

end Project

end CoverageDiff
