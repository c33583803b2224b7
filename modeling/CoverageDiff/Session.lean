import CoverageDiff.Blueprint
import CoverageDiff.Comparison
import CoverageDiff.Filter

/-!
# CoverageDiff.Session

Working on named projects step by step.

1. A step names the projects it works on; a name without a project stands for
   the empty project.
2. Asking for a class or line makes it if it is missing.
3. A refused step leaves what it had done before it was refused: a class that
   was made stays, an edit that was refused changes nothing.
-/

namespace CoverageDiff

/-! ## Steps and answers -/

/-- A class, by project and name. -/
structure ClassPath where
  /-- The name of the project. -/
  project : String
  className : String

/-- A line, by class and number. -/
structure LinePath extends ClassPath where
  /-- The number of the line. -/
  line : Int

/-- A step of a session. -/
inductive Step where
  /-- Build a new project. -/
  | build (project : String) (plans : List ClassPlan)
  /-- Ask for a class. -/
  | getClass (target : ClassPath)
  /-- Add a class whose name must be new. -/
  | addClass (project : String) (plan : ClassPlan)
  /-- Ask for a line and edit it. -/
  | editLine (target : ClassPath) (plan : LinePlan)
  /-- Look a class up. -/
  | findClass (target : ClassPath)
  /-- Ask for a class and look a line up. -/
  | findLine (target : LinePath)
  /-- Ask for a line and look a jump up. -/
  | findJump (target : LinePath) (index : Int)
  /-- Ask for a line and look a switch up. -/
  | findSwitch (target : LinePath) (index : Int)
  /-- Merge a project into another. -/
  | merge (project source : String)
  /-- Merge a class into another. -/
  | mergeClass (target source : ClassPath)
  /-- Merge a line into another. -/
  | mergeLine (target source : LinePath)
  /-- Make a filtered copy of a project. -/
  | filter (project into : String) (plan : FilterPlan)
  /-- Show a project. -/
  | dump (project : String)
  /-- The statuses of lines over several classes. -/
  | statuses (project : String) (classes : List String)
  /-- Compare two projects. -/
  | compare (a b : String)

/-- Why a step is refused. -/
inductive StepError where
  /-- The operation on the tree is refused. -/
  | tree (e : TreeError)
  /-- The filter cannot be made. -/
  | filter (e : FilterError)
  deriving DecidableEq

/-- What a step gives. -/
inductive StepAnswer where
  | project (p : Project)
  /-- A class, if there is one. -/
  | classAnswer (c : Option Class)
  /-- A line, if there is one. -/
  | line (l : Option Line)
  /-- A jump, if there is one. -/
  | jump (j : Option Jump)
  /-- A switch, if there is one. -/
  | switch (s : Option Switch)
  /-- Lines with their statuses. -/
  | statuses (lines : List (Int × Status))
  /-- The report of a comparison. -/
  | report (r : Report)
  /-- The step was refused. -/
  | refused (e : StepError)

/-! ## Running -/

/-- The projects of a session by name. -/
abbrev Session := List (String × Project)

namespace Session

/-- The project with a name. -/
def project (s : Session) (name : String) : Project :=
  ((Shelf.find? name s).map Prod.snd).getD .empty

/-- The session with a project under a name. -/
def put (s : Session) (name : String) (p : Project) : Session :=
  Shelf.put (name, p) s

/-- The class at a path, a new one if it is missing. -/
def classAt (s : Session) (target : ClassPath) : Class :=
  (s.project target.project).classOrNew target.className

/-- The session with a class put into a project. -/
def putClass (s : Session) (project : String) (c : Class) : Session :=
  s.put project ((s.project project).putClass c)

/-- The session after asking for a line, and the line. -/
def lineAt (s : Session) (target : LinePath) : Session × Except TreeError Line :=
  let c := s.classAt target.toClassPath
  match c.lineOrNew target.line none with
  | .ok l => (s.putClass target.project (c.putLine l), .ok l)
  | .error e => (s.putClass target.project c, .error e)

/-- The session after asking for a line, and what is read off it. -/
def readLine (s : Session) (target : LinePath) (answer : Line → StepAnswer) : Session × StepAnswer :=
  match s.lineAt target with
  | (s, .ok l) => (s, answer l)
  | (s, .error e) => (s, .refused (.tree e))

/-- The session after a step, and what the step gives. -/
def step (s : Session) : Step → Session × StepAnswer
  | .build name plans =>
    match Project.ofPlans? plans with
    | .ok p => (s.put name p, .project p)
    | .error e => (s, .refused (.tree e))
  | .getClass target =>
    let c := s.classAt target
    (s.putClass target.project c, .classAnswer (some c))
  | .addClass name plan =>
    match Class.build? { name := plan.name } plan.lines with
    | .error e => (s, .refused (.tree e))
    | .ok c =>
      match (s.project name).addClass c with
      | .error e => (s, .refused (.tree e))
      | .ok p => (s.put name p, .project p)
  | .editLine target plan =>
    let (c, e) := (s.classAt target).applyLine plan
    let s := s.putClass target.project c
    match e with
    | some e => (s, .refused (.tree e))
    | none => (s, .line (c.line? plan.number))
  | .findClass target => (s, .classAnswer ((s.project target.project).class? target.className))
  | .findLine target =>
    let c := s.classAt target.toClassPath
    (s.putClass target.project c, .line (c.line? target.line))
  | .findJump target index => s.readLine target fun l => .jump (l.jump? index)
  | .findSwitch target index => s.readLine target fun l => .switch (l.switch? index)
  | .merge name source =>
    let p := (s.project name).merge (s.project source)
    (s.put name p, .project p)
  | .mergeClass target source =>
    let c := (s.classAt target).merge (s.classAt source)
    (s.putClass target.project c, .classAnswer (some c))
  | .mergeLine target source =>
    match s.lineAt target with
    | (s, .error e) => (s, .refused (.tree e))
    | (s, .ok l) =>
      match s.lineAt source with
      | (s, .error e) => (s, .refused (.tree e))
      | (s, .ok other) =>
        let l := l.merge other
        (s.putClass target.project ((s.classAt target.toClassPath).putLine l), .line (some l))
  | .filter name into plan =>
    match ClassFilter.ofPlan? plan with
    | .error e => (s, .refused (.filter e))
    | .ok f =>
      let p := (s.project name).select f
      (s.put into p, .project p)
  | .dump name => (s, .project (s.project name))
  | .statuses name classes => (s, .statuses ((s.project name).lineStatuses classes))
  | .compare a b => (s, .report (.between (s.project a) (s.project b)))

/-- The answers to a list of steps, one after the other. -/
def run (s : Session) : List Step → List StepAnswer
  | [] => []
  | st :: steps =>
    let (s, answer) := s.step st
    answer :: s.run steps

/-- The session after a list of steps. -/
def after (s : Session) (steps : List Step) : Session :=
  steps.foldl (fun s st => (s.step st).1) s

end Session

end CoverageDiff
