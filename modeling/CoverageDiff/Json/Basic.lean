import CoverageDiff.Text.Quoted

/-!
# CoverageDiff.Json.Basic

Structured documents of texts, whole numbers, truth values, lists and
records, and their written form.

1. Every entry of a list and every field of a record stands on a line of its
   own, indented by two blanks per level; an empty list or record is written
   without a line end.
2. A text is written in ASCII.  What is outside is written as four
   hexadecimal digits per UTF-16 unit.
3. Whole numbers are written in full, however long.
-/

namespace CoverageDiff

/-- A structured document. -/
inductive Json where
  /-- Nothing. -/
  | null
  /-- A truth value. -/
  | bool (b : Bool)
  /-- A whole number. -/
  | int (n : Int)
  /-- A text. -/
  | str (s : String)
  /-- A list. -/
  | arr (items : List Json)
  /-- A record; the fields are in the order in which they are written. -/
  | obj (fields : List (String × Json))

namespace Json

/-! ## Texts -/

/-- A UTF-16 unit by its number. -/
def unitEscape (n : Nat) : List Char :=
  '\\' :: 'u' :: Text.hexDigits 4 n

/-- One character of a text. -/
def charText (c : Char) : List Char :=
  if c = '"' then ['\\', '"']
  else if c = '\\' then ['\\', '\\']
  else if c = '\n' then ['\\', 'n']
  else if c = '\r' then ['\\', 'r']
  else if c = '\t' then ['\\', 't']
  else if c.toNat = 8 then ['\\', 'b']
  else if c.toNat = 12 then ['\\', 'f']
  else if 32 ≤ c.toNat ∧ c.toNat ≤ 126 then [c]
  else if c.toNat < 0x10000 then unitEscape c.toNat
  else
    let n := c.toNat - 0x10000
    unitEscape (0xd800 + n / 0x400) ++ unitEscape (0xdc00 + n % 0x400)

/-- A text between double quotes. -/
def stringText (s : String) : String :=
  "\"" ++ String.ofList (s.toList.flatMap charText) ++ "\""

/-! ## Documents -/

/-- A line end followed by the indentation of a level. -/
def newLine (depth : Nat) : String :=
  "\n" ++ String.ofList (List.replicate (2 * depth) ' ')

mutual

/-- The written form of a document whose lines are indented to `depth`. -/
def renderAt (depth : Nat) : Json → String
  | null => "null"
  | bool b => if b then "true" else "false"
  | int n => toString n
  | str s => stringText s
  | arr [] => "[]"
  | arr (x :: xs) =>
    "[" ++ newLine (depth + 1) ++ renderAt (depth + 1) x ++ renderItems (depth + 1) xs
      ++ newLine depth ++ "]"
  | obj [] => "\x7b\x7d"
  | obj ((k, x) :: fields) =>
    "\x7b" ++ newLine (depth + 1) ++ stringText k ++ ": " ++ renderAt (depth + 1) x
      ++ renderFields (depth + 1) fields ++ newLine depth ++ "\x7d"

/-- The entries of a list after its first. -/
def renderItems (depth : Nat) : List Json → String
  | [] => ""
  | x :: xs => "," ++ newLine depth ++ renderAt depth x ++ renderItems depth xs

/-- The fields of a record after its first. -/
def renderFields (depth : Nat) : List (String × Json) → String
  | [] => ""
  | (k, x) :: fields =>
    "," ++ newLine depth ++ stringText k ++ ": " ++ renderAt depth x ++ renderFields depth fields

end

/-- The written form of a document. -/
def render (doc : Json) : String :=
  renderAt 0 doc

/-! ## Reading fields -/

/-- The fields of a record. -/
def fields? : Json → Option (List (String × Json))
  | obj fields => some fields
  | _ => none

/-- A field that is written only if it is there. -/
def field? (name : String) (value : Option Json) : List (String × Json) :=
  value.toList.map fun v => (name, v)

end Json

end CoverageDiff
