import CoverageDiff.Decimal.Shortest
import CoverageDiff.Text.Quoted
import CoverageDiff.Toml.Moment

/-!
# CoverageDiff.Toml.Value

The values of TOML documents, and how messages show them.

1. A table keeps its keys in the order in which they were first given.
2. Texts are shown in quotes, lists in brackets and tables in braces, with
   commas between their parts.
3. A whole number with more than 4300 digits, which bases other than ten can
   give, is not shown, nor is a value with one in it.
-/

namespace CoverageDiff.Toml

/-- A value. -/
inductive Value where
  | text (s : String)
  /-- A whole number. -/
  | whole (n : Int)
  /-- A binary number. -/
  | real (x : Binary64)
  /-- A truth value. -/
  | truth (b : Bool)
  /-- A date or time. -/
  | moment (m : Moment)
  /-- A list of values. -/
  | list (values : List Value)
  /-- Values by key. -/
  | table (fields : List (String × Value))

namespace Value

/-! ## Looking up -/

/-- The text of a value that is one. -/
def text? : Value → Option String
  | text s => some s
  | _ => none

/-- Whether a value is a table. -/
def isTable : Value → Bool
  | table _ => true
  | _ => false

/-! ## Showing -/

mutual

/-- Whether all whole numbers in a value are short enough to be shown. -/
def isShowable : Value → Bool
  | whole n => n.natAbs < 10 ^ Text.maxDigits
  | list values => allShowable values
  | table fields => fieldsShowable fields
  | text _ | real _ | truth _ | moment _ => true

/-- Whether all values of a list can be shown. -/
def allShowable : List Value → Bool
  | [] => true
  | v :: values => v.isShowable && allShowable values

/-- Whether all values of a table can be shown. -/
def fieldsShowable : List (String × Value) → Bool
  | [] => true
  | (_, v) :: fields => v.isShowable && fieldsShowable fields

end

/-- Parts with commas between them. -/
def commas (parts : List String) : String :=
  String.intercalate ", " parts

mutual

/-- A value as messages show it, if it can be shown. -/
def shown : Value → String
  | text s => Text.quote s
  | whole n => toString n
  | real x => x.text
  | truth b => if b then "True" else "False"
  | moment m => m.text
  | list values => "[" ++ commas (shownAll values) ++ "]"
  | table fields => "\x7b" ++ commas (shownFields fields) ++ "\x7d"

/-- Values as messages show them. -/
def shownAll : List Value → List String
  | [] => []
  | v :: values => v.shown :: shownAll values

/-- Values with their keys, as messages show them. -/
def shownFields : List (String × Value) → List String
  | [] => []
  | (key, v) :: fields => (Text.quote key ++ ": " ++ v.shown) :: shownFields fields

end

end Value

end CoverageDiff.Toml
