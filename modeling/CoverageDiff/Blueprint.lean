import CoverageDiff.Project

/-!
# CoverageDiff.Blueprint

Descriptions of coverage trees, and how a tree is built from one.

1. Classes and lines are taken in order; one that is already there is
   continued, and keeps its method.
2. On a line the count comes first, then the jumps, then the switches.
3. The first edit that is refused ends the building.  `Line.apply` and
   `Project.applyLine` give what was built up to there.
-/

namespace CoverageDiff

/-! ## Edits of a line -/

/-- A change to a line. -/
inductive Edit where
  /-- Set the count. -/
  | hits (n : Int)
  /-- Set a jump. -/
  | jump (j : Jump)
  /-- Set a switch from its keys and counts. -/
  | switch (index : Int) (keys hits : List Int) (defaultHits : Int)
  deriving DecidableEq

/-- The line after one edit. -/
def Line.edit (l : Line) : Edit → Except TreeError Line
  | .hits n => .ok { l with hits := n }
  | .jump j => .ok (l.setJump j)
  | .switch index keys hits defaultHits =>
    match Switch.make? index keys hits defaultHits with
    | .ok s => .ok (l.setSwitch s)
    | .error e => .error (.ofUneven e)

/-- The line after the edits up to the first that is refused, and why it was. -/
def Line.apply (l : Line) : List Edit → Line × Option TreeError
  | [] => (l, none)
  | e :: edits =>
    match l.edit e with
    | .ok l' => l'.apply edits
    | .error err => (l, some err)

/-! ## Descriptions -/

/-- Description of a line. -/
structure LinePlan where
  number : Int
  /-- The method of a new line. -/
  method : Option String := none
  /-- What is set on it, in order. -/
  edits : List Edit := []

/-- Description of a class. -/
structure ClassPlan where
  name : String
  /-- Its lines, in order. -/
  lines : List LinePlan := []

/-! ## Building -/

/-- The class with a planned line, as far as it could be built, and why it was not built further. -/
def Class.applyLine (c : Class) (plan : LinePlan) : Class × Option TreeError :=
  match c.lineOrNew plan.number plan.method with
  | .error e => (c, some e)
  | .ok l =>
    let (l', e) := l.apply plan.edits
    (c.putLine l', e)

/-- The class with all planned lines. -/
def Class.build? (c : Class) : List LinePlan → Except TreeError Class
  | [] => .ok c
  | plan :: plans =>
    match c.applyLine plan with
    | (c', none) => c'.build? plans
    | (_, some e) => .error e

/-- The project with a planned line in a class, as far as it could be built. -/
def Project.applyLine (p : Project) (className : String) (plan : LinePlan) :
    Project × Option TreeError :=
  let (c, e) := (p.classOrNew className).applyLine plan
  (p.putClass c, e)

/-- The project with all planned classes. -/
def Project.build? (p : Project) : List ClassPlan → Except TreeError Project
  | [] => .ok p
  | plan :: plans =>
    match (p.classOrNew plan.name).build? plan.lines with
    | .ok c => (p.putClass c).build? plans
    | .error e => .error e

/-- The project of a description. -/
def Project.ofPlans? (plans : List ClassPlan) : Except TreeError Project :=
  Project.empty.build? plans

end CoverageDiff
