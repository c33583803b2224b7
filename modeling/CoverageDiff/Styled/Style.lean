import CoverageDiff.Styled.Color
import CoverageDiff.Text.Letters

/-!
# CoverageDiff.Styled.Style

Styles of terminal text: attributes such as bold, and colours for text and
background.

1. A style is described by words: an attribute or its short name, `not` and
   an attribute, a colour, `on` and a colour.  The attribute after `not` is
   in small letters, all else in any.
2. `Style.description` is the canonical description.
3. `Style.paint` puts a text between the codes of a style; without codes the
   text stays as it is.
4. The word `link` and the address after it are left out: a description with
   them is none.
-/

namespace CoverageDiff

/-- A style; what it leaves open is taken from the style around it. -/
structure Style where
  /-- Attributes by number, ascending, switched on or off. -/
  attributes : List (Nat × Bool) := []
  /-- Colour of the text. -/
  color : Option Color := none
  /-- Colour of the background. -/
  background : Option Color := none
  deriving DecidableEq

namespace Style

open Text

/-! ## Attributes -/

/-- The attributes: name, short names, code. -/
def attributeTable : List (String × List String × String) :=
  [("bold", ["b"], "1"), ("dim", ["d"], "2"), ("italic", ["i"], "3"), ("underline", ["u"], "4"),
    ("blink", [], "5"), ("blink2", [], "6"), ("reverse", ["r"], "7"), ("conceal", ["c"], "8"),
    ("strike", ["s"], "9"), ("underline2", ["uu"], "21"), ("frame", [], "51"),
    ("encircle", [], "52"), ("overline", ["o"], "53")]

/-- The number of an attribute. -/
def attribute? (word : String) : Option Nat :=
  attributeTable.findIdx? fun (name, short, _) => name == word || short.contains word

/-- The name of an attribute. -/
def attributeName (n : Nat) : String :=
  (attributeTable[n]?.map fun a => a.1).getD ""

/-- The code of an attribute. -/
def attributeCode (n : Nat) : String :=
  (attributeTable[n]?.map fun a => a.2.2).getD ""

/-! ## Descriptions -/

/-- The style with an attribute switched. -/
def withAttribute (s : Style) (n : Nat) (on : Bool) : Style :=
  let others := s.attributes.filter fun a => a.1 != n
  { s with attributes :=
      others.takeWhile (fun a => decide (a.1 < n)) ++ [(n, on)]
        ++ others.dropWhile fun a => decide (a.1 < n) }

/-- The style with further words applied, each given with its form in small letters. -/
def applyWords (s : Style) : List (String × String) → Option Style
  | [] => some s
  | (_, "on") :: rest =>
    match rest with
    | (_, word) :: rest' => do applyWords { s with background := some (← Color.ofText? word) } rest'
    | [] => none
  | (_, "not") :: rest =>
    match rest with
    | (word, _) :: rest' => do applyWords (s.withAttribute (← attribute? word) false) rest'
    | [] => none
  | (_, word) :: rest =>
    match attribute? word with
    | some n => applyWords (s.withAttribute n true) rest
    | none => do applyWords { s with color := some (← Color.ofText? word) } rest

/-- The style that a text describes. -/
def ofText? (text : List Char) : Option Style :=
  applyWords {} ((words text).map fun word => (String.ofList word, String.ofList (lower word)))

/-- The canonical description of a style. -/
def description (s : Style) : String :=
  let attributes := s.attributes.map fun (n, on) =>
    if on then attributeName n else "not " ++ attributeName n
  let parts := attributes ++ (s.color.map Color.name).toList
    ++ (s.background.map fun c => "on " ++ c.name).toList
  if parts.isEmpty then "none" else " ".intercalate parts

/-- What two descriptions of one style have in common. -/
def normalName (text : List Char) : String :=
  match ofText? text with
  | some s => s.description
  | none => String.ofList (lower (trim text))

/-! ## Painting -/

/-- The style `inner` within the style `outer`. -/
def within (outer inner : Style) : Style where
  attributes := (inner.attributes.foldl (fun s (n, on) => s.withAttribute n on) outer).attributes
  color := inner.color <|> outer.color
  background := inner.background <|> outer.background

/-- The codes of a style. -/
def codes (s : Style) : List String :=
  (s.attributes.filter fun a => a.2).map (fun a => attributeCode a.1)
    ++ (s.color.map Color.textCode).toList
    ++ (s.background.map Color.backgroundCode).toList

/-- A text between the codes of a style. -/
def paint (s : Style) (text : String) : String :=
  match s.codes with
  | [] => text
  | codes => "\x1b[" ++ ";".intercalate codes ++ "m" ++ text ++ "\x1b[0m"

/-- Bold text. -/
def bold : Style :=
  { attributes := [(0, true)] }

end Style

end CoverageDiff
