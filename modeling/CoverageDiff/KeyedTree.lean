import CoverageDiff.Blueprint
import CoverageDiff.Dictionary
import CoverageDiff.Filter

/-!
# CoverageDiff.KeyedTree

Coverage trees as objects: a class stores its lines in a dictionary by
number, a project its classes in one by name.  `Project` says what such a
tree holds; here is how it is held and changed.

1. A call changes its object step by step.  One that is refused ends there:
   what it changed before stays changed.
2. Lists of branches are filed by scanning (`Shelf.putByScan`).  A merge looks
   the branches that were there up in a dictionary made before.
3. An object is stored under the key it was asked for by, whatever name or
   number it has itself.
4. Objects are values: a stored copy does not change with what it was copied
   from, and what is merged is read as it was before the merge.
-/

namespace CoverageDiff

/-! ## Calls -/

/-- A call on an object: what it gives or why it is refused, and the object after it. -/
abbrev Call (σ α : Type) : Type := EStateM TreeError σ α

/-- Call on a part of an object.  The part changes in its place, also by a call that is refused. -/
def callOn {ε σ τ α : Type} (part : τ) (store : τ → σ → σ) (call : EStateM ε τ α) :
    EStateM ε σ α := fun s =>
  match call part with
  | .ok a t => .ok a (store t s)
  | .error e t => .error e (store t s)

/-- The new object that a call makes of `new`; there is none if the call is refused. -/
def made {ε σ τ α : Type} (new : τ) (call : EStateM ε τ α) : EStateM ε σ τ := fun s =>
  match call new with
  | .ok _ t => .ok t s
  | .error e _ => .error e s

/-! ## Lines -/

/-- Branches with others put among them, each joined to the one that was there at its index. -/
def Shelf.absorbByScan {α : Type} [Filed α Int] (join : α → α → α) (mine others : List α) :
    List α :=
  let byIndex := Dictionary.ofValues mine
  others.foldl
    (fun acc b => putByScan ((byIndex.get? (key b)).elim b fun a => join a b) acc) mine

namespace Line

/-- Make an edit. -/
def change : Edit → Call Line Unit
  | .hits n => modify fun l => { l with hits := n }
  | .jump j => modify fun l => { l with jumps := Shelf.putByScan j l.jumps }
  | .switch index keys hits defaultHits => do
    match Switch.make? index keys hits defaultHits with
    | .error e => throw (.ofUneven e)
    | .ok s => modify fun l => { l with switches := Shelf.putByScan s l.switches }

/-- Merge another line into this one. -/
def absorb (other : Line) : Call Line Unit := do
  modify fun l => { l with hits := l.hits + other.hits }
  if (← get).method.isNone then
    modify fun l => { l with method := other.method }
  modify fun l => { l with jumps := Shelf.absorbByScan Jump.merge l.jumps other.jumps }
  modify fun l =>
    { l with switches := Shelf.absorbByScan Switch.merge l.switches other.switches }

end Line

/-! ## Classes -/

/-- A class with its lines by number. -/
structure KeyedClass where
  name : String
  lines : Dictionary Int Line := .empty

namespace KeyedClass

/-- The class with a line stored under a number. -/
def store (number : Int) (l : Line) (c : KeyedClass) : KeyedClass :=
  { c with lines := c.lines.set number l }

/-- The line under a number; a new one is stored if there is none. -/
def getLine (number : Int) (method : Option String) : Call KeyedClass Line := do
  match (← get).lines.get? number with
  | some l => return l
  | none =>
    if number < 1 then
      throw (.linePosition number (← get).name)
    let l : Line := { number, method }
    modify (store number l)
    return l

/-- Ask for a line and edit it. -/
def addLine (plan : LinePlan) : Call KeyedClass Unit := do
  let l ← getLine plan.number plan.method
  callOn l (store plan.number) (plan.edits.forM Line.change)

/-- Add all planned lines. -/
def fill (plans : List LinePlan) : Call KeyedClass Unit :=
  plans.forM addLine

/-- Merge a line into the one under a number, or store a copy of it there. -/
def absorbLine (number : Int) (other : Line) : Call KeyedClass Unit := do
  match (← get).lines.get? number with
  | none => modify (store number other)
  | some mine => callOn mine (store number) (Line.absorb other)

/-- Merge another class into this one. -/
def absorb (other : KeyedClass) : Call KeyedClass Unit :=
  other.lines.entries.forM fun e => absorbLine e.1 e.2

/-- What the class shows: its name, and its lines by ascending number. -/
def shown (c : KeyedClass) : Class where
  name := c.name
  lines := c.lines.values

end KeyedClass

/-! ## Projects -/

/-- A project with its classes by name. -/
structure KeyedProject where
  classes : Dictionary String KeyedClass := .empty

namespace KeyedProject

/-- The project without classes. -/
def empty : KeyedProject := {}

/-- The project with a class stored under a name. -/
def store (name : String) (c : KeyedClass) (p : KeyedProject) : KeyedProject :=
  { p with classes := p.classes.set name c }

/-- The class under a name, a new one if it is missing. -/
def classOrNew (p : KeyedProject) (name : String) : KeyedClass :=
  (p.classes.get? name).getD { name }

/-- The class under a name; a new one is stored if there is none. -/
def getClass (name : String) : Call KeyedProject KeyedClass := do
  match (← get).classes.get? name with
  | some c => return c
  | none =>
    let c : KeyedClass := { name }
    modify (store name c)
    return c

/-- Ask for a class and call on it. -/
def onClass {α : Type} (name : String) (call : Call KeyedClass α) : Call KeyedProject α := do
  let c ← getClass name
  callOn c (store name) call

/-- Store a class under its name, which must be new. -/
def addClass (c : KeyedClass) : Call KeyedProject Unit := do
  if ((← get).classes.get? c.name).isSome then
    throw (.duplicateClass c.name)
  modify (store c.name c)

/-- Add all planned classes. -/
def fill (plans : List ClassPlan) : Call KeyedProject Unit :=
  plans.forM fun plan => onClass plan.name (KeyedClass.fill plan.lines)

/-- Merge another project into this one. -/
def absorb (other : KeyedProject) : Call KeyedProject Unit :=
  other.classes.entries.forM fun e => onClass e.1 (KeyedClass.absorb e.2)

/-- The classes that a filter lets pass, by the name they are stored under. -/
def select (p : KeyedProject) (f : ClassFilter) : KeyedProject where
  classes := p.classes.filter f.allow

/-- What the project shows: its classes by ascending name. -/
def shown (p : KeyedProject) : Project where
  classes := p.classes.values.map KeyedClass.shown

end KeyedProject

end CoverageDiff
