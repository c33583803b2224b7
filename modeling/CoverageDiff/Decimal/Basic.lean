import CoverageDiff.Text.Numeral

/-!
# CoverageDiff.Decimal.Basic

Decimal numbers as texts write them, and their reader.

1. Blanks around the number are skipped; one sign may come first.
2. Digits with an optional point, at least one digit before or after it;
   digits and underscores follow the rules of whole numbers.
3. An exponent may follow: `e` or `E`, an optional sign, digits.
4. Instead of rules 2 and 3: `inf`, `infinity` or `nan` in any case.
-/

namespace CoverageDiff

/-- A number as a text writes it: a decimal fraction, an infinity, or no number. -/
inductive Decimal where
  /-- `mantissa · 10 ^ exponent`, negated if `negative`. -/
  | fraction (negative : Bool) (mantissa : Nat) (exponent : Int)
  | infinite (negative : Bool)
  /-- Not a number. -/
  | nan
  deriving DecidableEq

namespace Decimal

open Text

/-- An exponent at the start of a text, `0` if there is none, and the rest of the text. -/
def takeExponent (text : List Char) : Int × List Char :=
  match text with
  | c :: rest =>
    if c = 'e' || c = 'E' then
      let (negative, body) := takeSign rest
      match takeDigits body with
      | ([], _) => (0, text)
      | (ds, after) => (if negative then -(ofDigits ds : Int) else ofDigits ds, after)
    else (0, text)
  | [] => (0, [])

/-- The digits after a point at the start of a text, and the rest of the text. -/
def takeFraction (text : List Char) : List Nat × List Char :=
  match text with
  | '.' :: rest => takeDigits rest
  | _ => ([], text)

/-- A decimal fraction that takes up a whole text without sign. -/
def readFraction? (negative : Bool) (text : List Char) : Option Decimal :=
  let (whole, afterWhole) := takeDigits text
  let (part, afterPart) := takeFraction afterWhole
  if whole.isEmpty && part.isEmpty then none
  else
    match takeExponent afterPart with
    | (e, []) => some (.fraction negative (ofDigits (whole ++ part)) (e - part.length))
    | (_, _ :: _) => none

/-- ASCII small letter of a capital. -/
def asciiLower (c : Char) : Char :=
  if 'A' ≤ c && c ≤ 'Z' then Char.ofNat (c.toNat + 32) else c

/-- The number a text denotes. -/
def read? (text : List Char) : Option Decimal :=
  let (negative, body) := takeSign (trimNumber text)
  let word := String.ofList (body.map asciiLower)
  if word = "inf" || word = "infinity" then some (.infinite negative)
  else if word = "nan" then some .nan
  else readFraction? negative body

end Decimal

end CoverageDiff
