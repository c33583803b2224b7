import CoverageDiff.Markup.Namespace
import CoverageDiff.Markup.Node

/-!
# CoverageDiff.Markup.Document

Documents as element trees.

1. Elements nest: an end tag closes the innermost open element and has its
   name; there is one outermost element, with nothing but comments,
   instructions and white space around it.
2. The declaration can only come first, the document type only before the
   outermost element and only once.
3. The document type can give attributes a default and a type; of several
   declarations of one attribute the first counts.  After a reference to
   declarations elsewhere, further ones count only in a document that is
   declared to stand alone.
4. A document type that declares an entity is refused.  While declarations
   count, so is one with an unsound default or value.
-/

namespace CoverageDiff.Markup

open Text

/-! ## Values of attributes -/

/-- The characters of a value; references to entities declared elsewhere are dropped. -/
def valueText? (lenient : Bool) : List ValuePart → Option (List Char)
  | [] => some []
  | .char c :: ps => (valueText? lenient ps).map ((if isSpace c then ' ' else c) :: ·)
  | .reference c :: ps => (valueText? lenient ps).map (c :: ·)
  | .entity _ :: ps => if lenient then valueText? lenient ps else none

/-- A value without blanks at its ends and with single blanks inside. -/
def collapseBlanks : List Char → List Char
  | [] => []
  | ' ' :: cs =>
    match collapseBlanks cs with
    | [] => []
    | ' ' :: more => ' ' :: more
    | more => ' ' :: more
  | c :: cs => c :: collapseBlanks cs

/-- The value of an attribute, given whether blanks separate its parts. -/
def attributeValue? (lenient tokens : Bool) (parts : List ValuePart) : Option String :=
  (valueText? lenient parts).map fun text =>
    String.ofList (if tokens then (collapseBlanks text).dropWhile (· == ' ') else text)

/-! ## What the document type says -/

/-- What a document type says about one attribute. -/
structure AttributeRule where
  /-- The element it belongs to. -/
  element : String
  name : String
  /-- Whether blanks separate the parts of its value. -/
  tokens : Bool
  default : Option String

/-- What a document type says. -/
structure Rules where
  /-- The rules on attributes, in order. -/
  attributes : List AttributeRule := []
  /-- Whether entities may be declared elsewhere. -/
  lenient : Bool := false
  /-- Whether declarations still count. -/
  counting : Bool := true

namespace Rules

/-- The rules with one more declaration. -/
def add? (standalone : Bool) (r : Rules) : Declaration → Option Rules
  | .attribute element name tokens default => do
    if !r.counting then return r
    -- a default must be sound even if it comes too late to count
    let default ← default.mapM fun text => do attributeValue? r.lenient tokens (← valueParts? text)
    if r.attributes.any fun a => a.element == element && a.name == name then return r
    return { r with attributes := r.attributes ++ [⟨element, name, tokens, default⟩] }
  | .elsewhere => some { r with lenient := !standalone, counting := standalone }
  | .entity => if r.counting then none else some r
  | .predefined value => if r.counting && !valueIsSound value then none else some r

/-- The rules of a document type. -/
def ofDoctype? (standalone : Bool) (d : Doctype) : Option Rules :=
  d.declarations.foldlM (add? standalone) { lenient := d.external && !standalone }

end Rules

/-- The attributes of an element with their values, defaults included. -/
def attributeValues? (rules : Rules) (element : String)
    (given : List (String × List ValuePart)) : Option (List (String × String)) := do
  let own := rules.attributes.filter fun r => r.element == element
  let values ← given.mapM fun (name, parts) => do
    let tokens := own.any fun r => r.name == name && r.tokens
    return (name, ← attributeValue? rules.lenient tokens parts)
  let missing := own.filter fun r => !given.any fun g => g.1 == r.name
  return values ++ missing.filterMap fun r => r.default.map fun value => (r.name, value)

/-! ## Nesting -/

/-- An element that is not closed yet. -/
structure OpenElement where
  /-- Its name as it stands. -/
  name : String
  /-- Its qualified name. -/
  tag : String
  attributes : List (String × String)
  /-- Its child elements so far, last first. -/
  children : List Node
  /-- What prefixes stand for inside it. -/
  bindings : Bindings

/-- How much of a document has been read. -/
inductive Phase where
  /-- Nothing. -/
  | start
  /-- What precedes the outermost element; whether a document type was among it. -/
  | prolog (doctype : Bool)
  /-- Part of the outermost element: the innermost open element and those around it. -/
  | inside (e : OpenElement) (outer : List OpenElement)
  /-- The outermost element. -/
  | done (root : Node)

/-- A document that is being read. -/
structure Reading where
  /-- How much has been read. -/
  phase : Phase := .start
  /-- Whether it is declared to stand alone. -/
  standalone : Bool := false
  /-- What the document type says. -/
  rules : Rules := {}

namespace Reading

/-- With an element closed. -/
def close (r : Reading) (e : OpenElement) (outer : List OpenElement) : Reading :=
  let node := Node.element e.tag e.attributes e.children.reverse
  match outer with
  | [] => { r with phase := .done node }
  | parent :: others =>
    { r with phase := .inside { parent with children := node :: parent.children } others }

/-- With an element opened, and closed if it is empty. -/
def openElement? (r : Reading) (outer : List OpenElement) (name : String)
    (given : List (String × List ValuePart)) (empty : Bool) : Option Reading := do
  if !allDistinct (given.map Prod.fst) then none
  let bindings := match outer with
    | parent :: _ => parent.bindings
    | [] => outerBindings
  let values ← attributeValues? r.rules name given
  let bindings ← bindAll? bindings values
  let tag ← elementName? bindings name
  let attributes ← qualifyAttributes? bindings values
  let e : OpenElement := ⟨name, tag, attributes, [], bindings⟩
  return if empty then r.close e outer else { r with phase := .inside e outer }

/-- With one more token. -/
def step? (r : Reading) (t : Token) : Option Reading :=
  match r.phase, t with
  | .start, .declaration _ standalone => some { r with phase := .prolog false, standalone }
  | .start, .doctype d | .prolog false, .doctype d =>
    (Rules.ofDoctype? r.standalone d).map fun rules => { r with phase := .prolog true, rules }
  | .start, .startTag name given empty | .prolog _, .startTag name given empty =>
    r.openElement? [] name given empty
  | .start, .space | .start, .aside => some { r with phase := .prolog false }
  | .prolog _, .space | .prolog _, .aside => some r
  | .inside e outer, .startTag name given empty => r.openElement? (e :: outer) name given empty
  | .inside e outer, .endTag name => if name = e.name then some (r.close e outer) else none
  | .inside _ _, .space | .inside _ _, .text | .inside _ _, .aside => some r
  | .done _, .space | .done _, .aside => some r
  | _, _ => none

/-- The tree, if the outermost element has been closed. -/
def finish? (r : Reading) : Option Node :=
  match r.phase with
  | .done root => some root
  | _ => none

end Reading

/-! ## Documents -/

/-- The tree of a document; what it says about its encoding does not count. -/
def document? (text : List Char) : Option Node := do
  let text := unifyLineEnds text
  if !text.all isAllowed then none
  let tokens ← tokens? text
  (← tokens.foldlM Reading.step? {}).finish?

end CoverageDiff.Markup
