import CoverageDiff.KeyedTree
import CoverageDiff.Session

/-!
# CoverageDiff.KeyedSession

The steps of a session, made on projects that are held as objects
(`KeyedProject`).  Each step makes the calls that it stands for, one after the
other; the first that is refused ends it.
-/

namespace CoverageDiff

/-- The projects of a session, held as objects. -/
structure KeyedSession where
  projects : Dictionary String KeyedProject := .empty

namespace KeyedSession

/-- The session without projects. -/
def empty : KeyedSession := {}

/-- The project with a name. -/
def project (s : KeyedSession) (name : String) : KeyedProject :=
  (s.projects.get? name).getD .empty

/-- The session with a project under a name. -/
def store (name : String) (p : KeyedProject) (s : KeyedSession) : KeyedSession :=
  { s with projects := s.projects.set name p }

/-- Call on a project. -/
def onProject {α : Type} (name : String) (call : Call KeyedProject α) :
    EStateM StepError KeyedSession α := do
  callOn ((← get).project name) (store name) (call.adaptExcept .tree)

/-- Ask for a class and call on it. -/
def onClass {α : Type} (target : ClassPath) (call : Call KeyedClass α) :
    EStateM StepError KeyedSession α :=
  onProject target.project (KeyedProject.onClass target.className call)

/-- Ask for a line. -/
def getLine (target : LinePath) : EStateM StepError KeyedSession Line :=
  onClass target.toClassPath (KeyedClass.getLine target.line none)

/-- A step.  Those that only look change nothing, but what they ask for is made. -/
def step : Step → EStateM StepError KeyedSession Unit
  | .build name plans => do
    let p ← made .empty ((KeyedProject.fill plans).adaptExcept .tree)
    modify (store name p)
  | .getClass target => onClass target (pure ())
  | .addClass name plan => do
    let c ← made { name := plan.name } ((KeyedClass.fill plan.lines).adaptExcept .tree)
    onProject name (KeyedProject.addClass c)
  | .editLine target plan => onClass target (KeyedClass.addLine plan)
  | .findLine target => onClass target.toClassPath (pure ())
  | .findJump target _ => do
    let _ ← getLine target
  | .findSwitch target _ => do
    let _ ← getLine target
  | .merge name source => do
    let other := (← get).project source
    onProject name (KeyedProject.absorb other)
  | .mergeClass target source => do
    let other := ((← get).project source.project).classOrNew source.className
    onClass target (KeyedClass.absorb other)
  | .mergeLine target source => do
    let l ← getLine target
    let other ← getLine source
    onClass target.toClassPath (callOn l (KeyedClass.store target.line) (Line.absorb other))
  | .filter name into plan => do
    match ClassFilter.ofPlan? plan with
    | .error e => throw (.filter e)
    | .ok f => modify fun s => s.store into ((s.project name).select f)
  | .findClass _ => pure ()
  | .dump _ => pure ()
  | .statuses _ _ => pure ()
  | .compare _ _ => pure ()

/-- The session after a step, refused or not. -/
def afterStep (s : KeyedSession) (st : Step) : KeyedSession :=
  match step st s with
  | .ok _ s' => s'
  | .error _ s' => s'

/-- The session after a list of steps. -/
def after (s : KeyedSession) (steps : List Step) : KeyedSession :=
  steps.foldl afterStep s

end KeyedSession

end CoverageDiff
