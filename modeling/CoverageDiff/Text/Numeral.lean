import CoverageDiff.Text.Blank
import CoverageDiff.Text.Digit

/-!
# CoverageDiff.Text.Numeral

Reading whole numbers.

1. Blanks around the number are skipped; the four separator controls do not
   count as blanks here.
2. One sign may precede the digits, with no blank in between.
3. Digits are decimal digits of any script; a single `_` may stand between
   two digits.
4. A text with more than 4300 digits is refused.
-/

namespace CoverageDiff.Text

/-- Blanks that may surround a number. -/
def isNumberBlank (c : Char) : Bool :=
  isBlank c && !(decide (0x1c ≤ c.toNat) && decide (c.toNat ≤ 0x1f))

/-- `text` without the blanks that may surround a number. -/
def trimNumber (text : List Char) : List Char :=
  dropRightWhile isNumberBlank (text.dropWhile isNumberBlank)

/-! ## Runs of digits -/

/-- Whether a text goes on with an underscore and another digit. -/
def joinsDigit : List Char → Bool
  | '_' :: next :: _ => (digitValue? next).isSome
  | _ => false

/-- The digits at the start of a text, with single underscores inside, and the rest of the text. -/
def takeDigits : List Char → List Nat × List Char
  | [] => ([], [])
  | c :: rest =>
    match digitValue? c with
    | none => ([], c :: rest)
    | some d =>
      let (ds, after) := takeDigits (if joinsDigit rest then rest.drop 1 else rest)
      (d :: ds, after)
termination_by text => text.length
decreasing_by split <;> simp only [List.length_drop, List.length_cons] <;> omega

/-- The number that digits denote, most significant first. -/
def ofDigits (ds : List Nat) : Nat :=
  ds.foldl (fun n d => 10 * n + d) 0

/-- A sign at the start of a text (`true` for minus), and the rest of the text. -/
def takeSign : List Char → Bool × List Char
  | '+' :: rest => (false, rest)
  | '-' :: rest => (true, rest)
  | text => (false, text)

/-- The longest run of digits that is read as a number, or that a number is shown with. -/
def maxDigits : Nat := 4300

/-- The wording of a fault: a number of `count` digits is not read, or a number is not shown. -/
def tooManyDigits (count : Option Nat) : String :=
  let value := match count with
    | some n => ": value has " ++ toString n ++ " digits"
    | none => ""
  "Exceeds the limit (4300 digits) for integer string conversion" ++ value
    ++ "; use sys.set_int_max_str_digits() to increase the limit"

/-! ## Whole numbers -/

/-- The whole number a text denotes. -/
def readInt? (text : List Char) : Option Int :=
  let (negative, body) := takeSign (trimNumber text)
  match takeDigits body with
  | ([], _) => none
  | (ds, []) =>
    if maxDigits < ds.length then none
    else if negative then some (-(ofDigits ds : Int)) else some (ofDigits ds)
  | (_, _ :: _) => none

/-- The whole number a string denotes. -/
def int? (s : String) : Option Int :=
  readInt? s.toList

end CoverageDiff.Text
