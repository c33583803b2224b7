import CoverageDiff.Cobertura.Attribute
import CoverageDiff.Log
import CoverageDiff.Project

/-!
# CoverageDiff.Cobertura.Reader

Coverage documents as coverage trees.

1. The outermost element is `coverage`, in any case and any namespace.
2. Every element `class` inside it is a class, wherever it stands; classes of
   one name are merged.
3. The rows of a class are the elements `line` in its elements `lines`.  A row
   whose number is not a positive whole number, or whose count is no number,
   is skipped with a message; rows of one number are merged.
4. The conditions of a row are jumps or switches.  A jump without counts takes
   them from its percentage: both outcomes from 100 on, none up to 0, and the
   first only in between.
-/

namespace CoverageDiff.Cobertura

open Markup

/-! ## Conditions -/

/-- The kind of a condition, a jump if it is not given. -/
def conditionKind (n : Node) : String :=
  let raw := match n.attribute? "type" with
    | none => "jump"
    | some "" => "jump"
    | some s => s
  String.ofList (Text.lower (Text.trim raw.toList))

/-- The jump that a percentage stands for. -/
def jumpOfPercent (index value : Int) : Jump :=
  if 100 ≤ value then ⟨index, 1, 1⟩
  else if value ≤ 0 then ⟨index, 0, 0⟩
  else ⟨index, 1, 0⟩

/-- Whether a jump gives a count for one of its outcomes. -/
def hasCounts (n : Node) : Bool :=
  (n.attribute? "true-hits").isSome || (n.attribute? "false-hits").isSome

/-- The jump of a condition on a line. -/
def jump? (line : Int) (n : Node) : Except ReadError Jump := do
  let index ← count? n "number"
  if hasCounts n then
    return ⟨index, ← countOrZero? n "true-hits", ← countOrZero? n "false-hits"⟩
  else
    match ← percent? n with
    | some value => return jumpOfPercent index value
    | none => throw (.noCounts index line)

/-- The switch of a condition on a line. -/
def switch? (line : Int) (n : Node) : Except ReadError Switch := do
  let index ← count? n "number"
  let keys ← numbers? n "keys"
  let hits ← numbers? n "hits"
  if keys.length = hits.length then
    return ⟨index, keys, hits, ← countOrZero? n "default-hits"⟩
  else throw (.unevenSwitch index line keys.length hits.length)

/-- The line with one more condition. -/
def addCondition? (l : Line) (n : Node) : Except ReadError Line :=
  let kind := conditionKind n
  if kind = "jump" then (jump? l.number n).map l.setJump
  else if kind = "switch" then (switch? l.number n).map l.setSwitch
  else .error (.unknownCondition kind l.number)

/-! ## Rows -/

/-- Why a row is skipped. -/
inductive Skip where
  /-- Its number or its count is no number. -/
  | notNumbers (number hits : Option String)
  /-- Its number is not positive. -/
  | notPositive (number : Int)
  deriving DecidableEq

/-- The message on a skipped row. -/
def Skip.entry (source className : String) : Skip → LogEntry
  | notNumbers number hits =>
    ⟨.debug, source ++ ": skipping line with number " ++ Text.quote? number ++ " and hits "
      ++ Text.quote? hits ++ " in " ++ className⟩
  | notPositive number =>
    ⟨.debug, source ++ ": skipping non-positive line " ++ toString number ++ " in " ++ className⟩

/-- Whether the count of a row is absent, empty or a whole number. -/
def hitsAreSound (n : Node) : Bool :=
  match n.attribute? "hits" with
  | none => true
  | some raw => raw == "" || (Text.int? raw).isSome

/-- The number of a row, or why the row is skipped. -/
def rowNumber (n : Node) : Except Skip Int :=
  match (n.attribute? "number").bind Text.int?, hitsAreSound n with
  | some number, true => if number < 1 then .error (.notPositive number) else .ok number
  | _, _ => .error (.notNumbers (n.attribute? "number") (n.attribute? "hits"))

/-- The line of a row with a number. -/
def line? (number : Int) (n : Node) : Except ReadError Line := do
  let hits ← countOrZero? n "hits"
  (n.grandchildrenNamed "conditions" "condition").foldlM addCondition?
    { number, hits, method := n.attribute? "method" }

/-! ## Classes -/

/-- The class with further rows, and the messages on those that were skipped. -/
def addRows (source : String) (c : Class) : List Node → Logged ReadError Class
  | [] => ([], .ok c)
  | n :: rows =>
    match rowNumber n with
    | .error skip =>
      let (log, result) := addRows source c rows
      (skip.entry source c.name :: log, result)
    | .ok number =>
      match line? number n with
      | .error e => ([], .error e)
      | .ok l => addRows source { c with lines := Shelf.putWith Line.merge l c.lines } rows

/-- The name of a class, if it is not blank. -/
def className? (n : Node) : Option String :=
  ((n.attribute? "name").map Text.trimmed).filter (· != "")

/-- The project with further classes, and the messages on skipped rows. -/
def addClasses (source : String) (p : Project) :
    List Node → Logged ReadError Project
  | [] => ([], .ok p)
  | n :: classes =>
    match className? n with
    | none => ([], .error (.namelessClass source))
    | some name =>
      match addRows source { name } (n.grandchildrenNamed "lines" "line") with
      | (log, .error e) => (log, .error e)
      | (log, .ok c) =>
        let (log', result) := addClasses source (p.mergeClass c) classes
        (log ++ log', result)

/-! ## Documents -/

/-- The name of an element without its namespace. -/
def localName (tag : String) : String :=
  String.ofList ((tag.toList.reverse.takeWhile (· != '\x7d')).reverse)

/-- Whether an element can be the outermost one of a report. -/
def isRoot (n : Node) : Bool :=
  String.ofList (Text.lower (localName n.tag).toList) == "coverage"

/-- The message after all classes. -/
def loadedEntry (source : String) (p : Project) : LogEntry :=
  ⟨.debug, source ++ ": loaded " ++ toString p.classes.length ++ " classes"⟩

/-- The project of a document from `source`, and the messages on the way. -/
def project (source : String) (root : Node) : Logged ReadError Project :=
  if isRoot root then
    match addClasses source .empty (root.descendantsNamed "class") with
    | (log, .ok p) => (log ++ [loadedEntry source p], .ok p)
    | (log, .error e) => (log, .error e)
  else ([], .error (.unexpectedRoot root.tag source))

/-- The project of a document without the messages. -/
def project? (source : String) (root : Node) : Except ReadError Project :=
  (project source root).2

end CoverageDiff.Cobertura
