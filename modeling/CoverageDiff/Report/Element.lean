import CoverageDiff.Status

/-!
# CoverageDiff.Report.Element

One discrepancy between two coverage trees.

1. A place is a whole class, a line of it, or a branch of a line.
2. A value is what was compared: a status, or a list of marks (taken or
   missed outcomes, labels of covered cases).
3. An element that is only on the second side has no value before, one that
   is only on the first side none after.
-/

namespace CoverageDiff

/-! ## Kinds and levels -/

/-- How an element differs. -/
inductive Kind where
  /-- Only the second side has it. -/
  | added
  /-- Only the first side has it. -/
  | removed
  /-- Both sides have it with different values. -/
  | changed
  deriving DecidableEq

namespace Kind

/-- The word for a kind in reports. -/
def name : Kind → String
  | added => "ADDED"
  | removed => "REMOVED"
  | changed => "CHANGED"

/-- The kind a word stands for. -/
def ofName? (s : String) : Option Kind :=
  if s = "ADDED" then some added
  else if s = "REMOVED" then some removed
  else if s = "CHANGED" then some changed
  else none

/-- The kind seen from the other side. -/
def swap : Kind → Kind
  | added => removed
  | removed => added
  | changed => changed

end Kind

/-- The part of the tree an element belongs to. -/
inductive Level where
  /-- Whole classes. -/
  | classes
  | lines
  /-- Jumps of lines. -/
  | jumps
  /-- Switches of lines. -/
  | switches
  deriving DecidableEq

namespace Level

/-- The word for a level in reports. -/
def name : Level → String
  | classes => "classes"
  | lines => "lines"
  | jumps => "jumps"
  | switches => "switches"

/-- All levels, in the order of reports. -/
def all : List Level :=
  [classes, lines, jumps, switches]

end Level

/-! ## Values -/

/-- One entry of a value that is a list. -/
inductive Mark where
  /-- Whether an outcome was taken. -/
  | flag (taken : Bool)
  /-- The label of a covered case. -/
  | label (text : String)
  deriving DecidableEq

namespace Mark

/-- The text of a mark. -/
def text : Mark → String
  | flag true => "True"
  | flag false => "False"
  | label s => s

end Mark

/-- What is compared at a place. -/
inductive Value where
  /-- The status of a line. -/
  | status (s : Status)
  /-- Outcomes or covered cases of a branch. -/
  | marks (ms : List Mark)
  deriving DecidableEq

namespace Value

/-- The outcome of a jump as a value. -/
def outcome (o : Bool × Bool) : Value :=
  marks [.flag o.1, .flag o.2]

/-- Labels of covered cases as a value. -/
def cases (labels : List String) : Value :=
  marks (labels.map .label)

/-- The word for an outcome. -/
def takenWord : Bool → String
  | true => "taken"
  | false => "missed"

/-- The text of a value. -/
def text : Value → String
  | status s => s.name
  | marks [.flag t, .flag f] => "true=" ++ takenWord t ++ " false=" ++ takenWord f
  | marks ms => "\x7b" ++ ", ".intercalate (ms.map Mark.text) ++ "\x7d"

/-- The text of a value that may be absent. -/
def text? : Option Value → String
  | none => "-"
  | some v => v.text

end Value

/-! ## Places -/

/-- Where in a class an element is. -/
inductive Place where
  /-- The class as a whole. -/
  | whole
  | line (number : Int)
  /-- A branch of a line. -/
  | branch (line index : Int)
  deriving DecidableEq

/-- A place was given an index but no line. -/
inductive PlaceError where
  /-- The line is missing. -/
  | indexWithoutLine
  deriving DecidableEq

namespace PlaceError

/-- The wording of the error. -/
def message : PlaceError → String
  | indexWithoutLine => "DiffElement.index requires a line"

end PlaceError

namespace Place

/-- The place with the given line and index. -/
def ofParts? : Option Int → Option Int → Except PlaceError Place
  | none, none => .ok whole
  | some n, none => .ok (line n)
  | some n, some i => .ok (branch n i)
  | none, some _ => .error .indexWithoutLine

/-- The line of a place. -/
def line? : Place → Option Int
  | whole => none
  | line n => some n
  | branch n _ => some n

/-- The index of a place. -/
def index? : Place → Option Int
  | branch _ i => some i
  | _ => none

/-- A place is determined by its parts. -/
@[simp] theorem ofParts?_parts (p : Place) : ofParts? p.line? p.index? = .ok p := by
  cases p <;> rfl

end Place

/-! ## Elements -/

/-- One discrepancy. -/
structure Element where
  className : String
  /-- How the sides differ. -/
  kind : Kind
  /-- Where in the class. -/
  place : Place := .whole
  /-- The value on the first side. -/
  before : Option Value := none
  /-- The value on the second side. -/
  after : Option Value := none
  deriving DecidableEq

namespace Element

/-- What elements of one level are ordered by; an absent part counts as `-1`. -/
def sortKey (e : Element) : String × Int × Int :=
  (e.className, e.place.line?.getD (-1), e.place.index?.getD (-1))

/-- The place with its class as one text.  Numbers are shown in full, as every number of a line or
branch that is read can be. -/
def location (e : Element) : String :=
  match e.place with
  | .whole => e.className
  | .line n => e.className ++ ":" ++ toString n
  | .branch n i => e.className ++ ":" ++ toString n ++ ":#" ++ toString i

/-- The element seen from the other side. -/
def swap (e : Element) : Element :=
  { e with kind := e.kind.swap, before := e.after, after := e.before }

end Element

end CoverageDiff
