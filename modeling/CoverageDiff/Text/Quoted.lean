import CoverageDiff.Text.Printable

/-!
# CoverageDiff.Text.Quoted

How messages quote a text.

1. The text stands in single quotes, or in double quotes if it holds a single
   quote and no double quote.
2. A backslash and the quote in use are preceded by a backslash; tab, line
   feed and carriage return have the short forms.
3. Other characters that are not printable are written by code point, with
   the fewest of two, four or eight hexadecimal digits that suffice.
-/

namespace CoverageDiff.Text

/-- The small hexadecimal digit of a value below sixteen. -/
def hexDigit (n : Nat) : Char :=
  if n < 10 then Char.ofNat (48 + n) else Char.ofNat (87 + n)

/-- The last `width` hexadecimal digits of `n`. -/
def hexDigits : Nat → Nat → List Char
  | 0, _ => []
  | width + 1, n => hexDigits width (n / 16) ++ [hexDigit (n % 16)]

/-- A character by its code point, as rule 3 says. -/
def codePointEscape (c : Char) : List Char :=
  if c.toNat ≤ 0xff then '\\' :: 'x' :: hexDigits 2 c.toNat
  else if c.toNat ≤ 0xffff then '\\' :: 'u' :: hexDigits 4 c.toNat
  else '\\' :: 'U' :: hexDigits 8 c.toNat

/-- The quote that a text is put into. -/
def quoteFor (text : List Char) : Char :=
  if text.contains '\'' && !text.contains '"' then '"' else '\''

/-- One character between quotes. -/
def quotedChar (quote c : Char) : List Char :=
  if c = quote || c = '\\' then ['\\', c]
  else if c = '\t' then ['\\', 't']
  else if c = '\n' then ['\\', 'n']
  else if c = '\r' then ['\\', 'r']
  else if isPrintable c then [c]
  else codePointEscape c

/-- A text as messages quote it. -/
def quoted (text : List Char) : List Char :=
  let quote := quoteFor text
  quote :: text.flatMap (quotedChar quote) ++ [quote]

/-- A string as messages quote it. -/
def quote (s : String) : String :=
  String.ofList (quoted s.toList)

/-- An optional string as messages quote it; an absent one is the word for nothing. -/
def quote? : Option String → String
  | some s => quote s
  | none => "None"

end CoverageDiff.Text
