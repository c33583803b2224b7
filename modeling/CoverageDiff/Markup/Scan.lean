import CoverageDiff.Markup.Char
import CoverageDiff.Text.Rest

/-!
# CoverageDiff.Markup.Scan

What tags and declarations are both read with.

1. A reader takes something from the front of a text and returns what it left.
2. Values of attributes are kept in parts, as their meaning depends on the
   document type: characters, characters given by number, and references to
   entities.
-/

namespace CoverageDiff.Markup

open Text

/-! ## Small readers -/

/-- The rest of a text after a given start. -/
def after? : List Char → List Char → Option (List Char)
  | [], text => some text
  | c :: cs, d :: text => if c = d then after? cs text else none
  | _ :: _, [] => none

/-- The rest of a text after a given word. -/
def afterWord? (word : String) (text : List Char) : Option (List Char) :=
  after? word.toList text

/-- What precedes the next occurrence of `stop`, and the rest after it. -/
def splitAtWord? (stop : List Char) : List Char → Option (List Char × List Char)
  | [] => none
  | c :: cs =>
    match after? stop (c :: cs) with
    | some more => some ([], more)
    | none => (splitAtWord? stop cs).map fun (inside, more) => (c :: inside, more)

/-- A text without the white space at its start. -/
def skipSpace (text : List Char) : List Char :=
  text.dropWhile isSpace

/-- A text after white space, of which there must be some. -/
def space? : List Char → Option (List Char)
  | c :: cs => if isSpace c then some (skipSpace cs) else none
  | [] => none

/-- A name without colon, and the rest of the text. -/
def name? : List Char → Option (List Char × List Char)
  | c :: cs => if isNameStart c then some (c :: cs.takeWhile isNameChar, cs.dropWhile isNameChar)
    else none
  | [] => none

/-- A name that may have a prefix, and the rest of the text. -/
def qualifiedName? (text : List Char) : Option (String × List Char) := do
  let (first, more) ← name? text
  match more with
  | ':' :: cs =>
    let (second, left) ← name? cs
    return (String.ofList (first ++ ':' :: second), left)
  | _ => return (String.ofList first, more)

/-- A name without colon as a string, and the rest of the text. -/
def plainName? (text : List Char) : Option (String × List Char) :=
  (name? text).map fun (n, more) => (String.ofList n, more)

/-- A text in quotes of either kind, and the rest after them. -/
def quoted? : List Char → Option (List Char × List Char)
  | '"' :: cs => splitAtWord? ['"'] cs
  | '\'' :: cs => splitAtWord? ['\''] cs
  | _ => none

/-! ## References -/

/-- A part of the value of an attribute. -/
inductive ValuePart where
  /-- A character as it stands. -/
  | char (c : Char)
  /-- A character given by its number or by a predefined name. -/
  | reference (c : Char)
  /-- A reference to an entity. -/
  | entity (name : String)
  deriving DecidableEq

/-- The value of a digit in a base. -/
def digitIn? (base : Nat) (c : Char) : Option Nat :=
  let value? :=
    if '0' ≤ c && c ≤ '9' then some (c.toNat - 48)
    else if 'a' ≤ c && c ≤ 'f' then some (c.toNat - 87)
    else if 'A' ≤ c && c ≤ 'F' then some (c.toNat - 55)
    else none
  value?.filter fun v => decide (v < base)

/-- The number that digits denote, which must be one of a character. -/
def codeOf? (base : Nat) (digits : List Char) : Option Nat :=
  digits.foldlM (fun n c => do
    let n := base * n + (← digitIn? base c)
    if 0x10ffff < n then none else some n) 0

/-- The character with a number, if it may be given by number. -/
def numbered? (n : Nat) : Option Char :=
  if n.isValidChar && isAllowed (Char.ofNat n) && n != 0 then some (Char.ofNat n) else none

/-- The characters with predefined names. -/
def predefined : List (String × Char) :=
  [("lt", '<'), ("gt", '>'), ("amp", '&'), ("apos", '\''), ("quot", '"')]

/-- A reference after its ampersand, and the rest of the text. -/
def reference? (text : List Char) : Option (ValuePart × List Char) :=
  match text with
  | '#' :: cs => do
    let (base, body) := match cs with
      | 'x' :: more => (16, more)
      | _ => (10, cs)
    let (digits, more) ← splitAtWord? [';'] body
    if digits.isEmpty then none
    return (.reference (← numbered? (← codeOf? base digits)), more)
  | _ => do
    let (name, more) ← plainName? text
    let left ← after? [';'] more
    match predefined.lookup name with
    | some c => return (.reference c, left)
    | none => return (.entity name, left)

/-! ## Values -/

/-- The parts of the value of an attribute. -/
def valueParts? (text : List Char) : Option (List ValuePart) :=
  match text with
  | [] => some []
  | c :: cs =>
    if c = '<' then none
    else if c = '&' then
      match reference? cs with
      | some (part, more) => (valueParts? (rest cs more)).map (part :: ·)
      | none => none
    else (valueParts? cs).map (.char c :: ·)
termination_by text.length
decreasing_by
  · have := length_rest_le cs more
    simp
    omega
  · simp

end CoverageDiff.Markup
