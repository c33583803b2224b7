import CoverageDiff.Decimal.Binary64
import CoverageDiff.Markup.Node
import CoverageDiff.Text.Letters
import CoverageDiff.Text.Numeral
import CoverageDiff.Text.Quoted

/-!
# CoverageDiff.Cobertura.Attribute

The attributes of coverage documents.

1. A count is a whole number that is not negative; where a default is allowed,
   an absent or blank attribute has it.
2. A list of numbers is separated by blanks or commas; an absent one is empty.
3. A percentage is a decimal number, with or without percent signs, without
   its fractional part.
-/

namespace CoverageDiff.Cobertura

open Markup

/-! ## Errors -/

/-- Why a document is not a coverage report. -/
inductive ReadError where
  /-- A required attribute is absent or blank. -/
  | missingAttribute (tag name : String)
  /-- An attribute is not a whole number. -/
  | notInteger (tag name raw : String)
  /-- An attribute is a negative number. -/
  | negative (tag name : String) (value : Int)
  /-- An attribute is not a list of whole numbers. -/
  | notIntegers (tag name raw : String)
  /-- A jump says nothing about its outcomes. -/
  | noCounts (index line : Int)
  /-- A switch has keys and counts of different number. -/
  | unevenSwitch (index line : Int) (keys hits : Nat)
  /-- A condition is neither a jump nor a switch. -/
  | unknownCondition (kind : String) (line : Int)
  /-- The outermost element is not one of a coverage report. -/
  | unexpectedRoot (tag source : String)
  /-- A class has no name. -/
  | namelessClass (source : String)
  /-- A percentage is infinite. -/
  | infiniteCoverage
  deriving DecidableEq

namespace ReadError

/-- An attribute of an element, as messages name it. -/
def attributeText (tag name : String) : String :=
  "<" ++ tag ++ "> attribute " ++ Text.quote name

/-- The wording of an error. -/
def message : ReadError → String
  | missingAttribute tag name =>
    "<" ++ tag ++ "> is missing required attribute " ++ Text.quote name
  | notInteger tag name raw =>
    attributeText tag name ++ " is not an integer: " ++ Text.quote raw
  | negative tag name value =>
    attributeText tag name ++ " must be non-negative, got " ++ toString value
  | notIntegers tag name raw =>
    attributeText tag name ++ " is not a list of integers: " ++ Text.quote raw
  | noCounts index line =>
    "jump " ++ toString index ++ " on line " ++ toString line
      ++ " has neither hit counts nor coverage"
  | unevenSwitch index line keys hits =>
    "switch " ++ toString index ++ " on line " ++ toString line ++ ": " ++ toString keys
      ++ " keys but " ++ toString hits ++ " hit counts"
  | unknownCondition kind line =>
    "unknown condition type " ++ Text.quote kind ++ " on line " ++ toString line
  | unexpectedRoot tag source =>
    "unexpected root tag " ++ Text.quote tag ++ " in " ++ source
  | namelessClass source => "<class> without a name in " ++ source
  | infiniteCoverage => "cannot convert float infinity to integer"

end ReadError

/-! ## Counts -/

/-- The text of an attribute, if it is there and not blank. -/
def givenText? (n : Node) (name : String) : Option String :=
  (n.attribute? name).filter fun raw => !Text.isBlankString raw

/-- The count that a text gives. -/
def countOf? (tag name raw : String) : Except ReadError Int :=
  match Text.int? raw with
  | none => .error (.notInteger tag name raw)
  | some value => if value < 0 then .error (.negative tag name value) else .ok value

/-- A count that has to be given. -/
def count? (n : Node) (name : String) : Except ReadError Int :=
  match givenText? n name with
  | none => .error (.missingAttribute n.tag name)
  | some raw => countOf? n.tag name raw

/-- A count that is zero if it is not given. -/
def countOrZero? (n : Node) (name : String) : Except ReadError Int :=
  match givenText? n name with
  | none => .ok 0
  | some raw => countOf? n.tag name raw

/-! ## Lists of numbers -/

/-- A text with blanks for its commas. -/
def commasAsBlanks (raw : String) : String :=
  String.ofList (raw.toList.map fun c => if c = ',' then ' ' else c)

/-- The whole numbers that an attribute lists. -/
def numbers? (n : Node) (name : String) : Except ReadError (List Int) :=
  let raw := commasAsBlanks ((n.attribute? name).getD "")
  match (Text.wordsOf raw).mapM Text.int? with
  | some values => .ok values
  | none => .error (.notIntegers n.tag name raw)

/-! ## Percentages -/

/-- The text of a percentage without blanks around it and percent signs after it. -/
def percentText (raw : String) : List Char :=
  Text.dropRightWhile (· == '%') (Text.trim raw.toList)

/-- The whole part of the percentage that a text gives, if it gives one. -/
def percentOf? (raw : String) : Except ReadError (Option Int) :=
  match Decimal.read? (percentText raw) with
  | none => .ok none
  | some d =>
    match (Binary64.ofDecimal d).truncate with
    | .ok value => .ok (some value)
    | .error .nan => .ok none
    | .error .infinite => .error .infiniteCoverage

/-- The whole part of the percentage of an element, if it gives one. -/
def percent? (n : Node) : Except ReadError (Option Int) :=
  percentOf? ((n.attribute? "coverage").getD "")

end CoverageDiff.Cobertura
