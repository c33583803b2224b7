import CoverageDiff.Decimal.Binary64
import CoverageDiff.Toml.Token
import CoverageDiff.Toml.Value

/-!
# CoverageDiff.Toml.Number

Numbers, dates and times in TOML documents.

1. Underscores can stand between digits.  Whole numbers start with a zero only
   if they are zero, or if `x`, `o` or `b` follows for the bases 16, 8 and 2;
   only numbers of base ten have a sign.
2. A number with a fraction or an exponent is a binary number, and so are
   `inf` and `nan`.
3. Dates are `yyyy-mm-dd`, times `hh:mm:ss` with a fraction of which six
   digits count, joined by `T`, `t` or a space; `Z`, `z` or a signed `hh:mm`
   gives the offset.
-/

namespace CoverageDiff.Toml

/-- Why a text is not a document. -/
inductive ReadError where
  /-- It breaks a rule of the format. -/
  | malformed
  /-- A whole number has more digits than are read. -/
  | tooManyDigits (count : Nat)
  deriving DecidableEq

namespace ReadError

/-- The wording of an error. -/
def message : ReadError → String
  | malformed => "invalid document"
  | tooManyDigits count => Text.tooManyDigits (some count)

end ReadError

/-! ## Digits -/

/-- The digits that go on with a number, without underscores, and what follows. -/
def moreDigits (isDigit : Char → Bool) : List Char → List Char × List Char
  | '_' :: c :: more =>
    if isDigit c then
      let (ds, left) := moreDigits isDigit more
      (c :: ds, left)
    else ([], '_' :: c :: more)
  | c :: more =>
    if isDigit c then
      let (ds, left) := moreDigits isDigit more
      (c :: ds, left)
    else ([], c :: more)
  | [] => ([], [])

/-- At least one digit, without underscores, and what follows. -/
def digits? (isDigit : Char → Bool) : List Char → Option (List Char × List Char)
  | c :: more =>
    if isDigit c then
      let (ds, left) := moreDigits isDigit more
      some (c :: ds, left)
    else none
  | [] => none

/-- Whether a character is a decimal digit. -/
def isDecimal (c : Char) : Bool :=
  '0' ≤ c && c ≤ '9'

/-- The number that digits of a base stand for. -/
def numberOf (base : Nat) (digits : List Char) : Nat :=
  digits.foldl (fun n c => base * n + (hexValue? c).getD 0) 0

/-! ## Whole and binary numbers -/

/-- A sign at the start of a text. -/
def sign : List Char → List Char × List Char
  | '+' :: more => (['+'], more)
  | '-' :: more => (['-'], more)
  | cs => ([], cs)

/-- A whole number of a base other than ten. -/
def basedNumber? : List Char → Option (Int × List Char)
  | '0' :: 'x' :: more =>
    (digits? (fun c => (hexValue? c).isSome) more).map fun (ds, left) => (numberOf 16 ds, left)
  | '0' :: 'o' :: more =>
    (digits? (fun c => '0' ≤ c && c ≤ '7') more).map fun (ds, left) => (numberOf 8 ds, left)
  | '0' :: 'b' :: more =>
    (digits? (fun c => c = '0' || c = '1') more).map fun (ds, left) => (numberOf 2 ds, left)
  | _ => none

/-- The digits before a point. -/
def wholeDigits? : List Char → Option (List Char × List Char)
  | '0' :: more => some (['0'], more)
  | cs => digits? isDecimal cs

/-- A point and digits, if they follow. -/
def fraction (cs : List Char) : List Char × List Char :=
  match cs with
  | '.' :: more =>
    match digits? isDecimal more with
    | some (ds, left) => ('.' :: ds, left)
    | none => ([], cs)
  | _ => ([], cs)

/-- An exponent, if it follows. -/
def exponent (cs : List Char) : List Char × List Char :=
  match cs with
  | c :: more =>
    if c = 'e' || c = 'E' then
      let (s, body) := sign more
      match digits? isDecimal body with
      | some (ds, left) => ('e' :: s ++ ds, left)
      | none => ([], cs)
    else ([], cs)
  | [] => ([], [])

/-- The value of a whole number of base ten. -/
def wholeValue? (negative : Bool) (digits : List Char) : Except ReadError Value :=
  if Text.maxDigits < digits.length then .error (.tooManyDigits digits.length)
  else
    let n : Int := numberOf 10 digits
    .ok (.whole (if negative then -n else n))

/-- The binary number that a text without underscores denotes. -/
def realValue (text : List Char) : Value :=
  .real (((Decimal.read? text).map Binary64.ofDecimal).getD .nan)

/-- A number of base ten. -/
def decimalNumber? (cs : List Char) : Option (Except ReadError Value × List Char) :=
  let (s, body) := sign cs
  match wholeDigits? body with
  | none => none
  | some (whole, afterWhole) =>
    let (f, afterFraction) := fraction afterWhole
    let (e, left) := exponent afterFraction
    if f.isEmpty && e.isEmpty then some (wholeValue? (s = ['-']) whole, left)
    else some (.ok (realValue (s ++ whole ++ f ++ e)), left)

/-- A binary number written as a word. -/
def wordNumber? (cs : List Char) : Option (Value × List Char) :=
  let (s, body) := sign cs
  match body with
  | 'i' :: 'n' :: 'f' :: left => some (.real (.infinite (s = ['-'])), left)
  | 'n' :: 'a' :: 'n' :: left => some (.real .nan, left)
  | _ => none

/-! ## Dates and times -/

/-- The number of exactly `width` decimal digits. -/
def fixed? (width : Nat) (cs : List Char) : Option (Nat × List Char) :=
  if (cs.take width).length = width && (cs.take width).all isDecimal then
    some (numberOf 10 (cs.take width), cs.drop width)
  else none

/-- Two decimal digits with a value from `least` to `most`. -/
def twoDigits? (least most : Nat) (cs : List Char) : Option (Nat × List Char) :=
  (fixed? 2 cs).filter fun (n, _) => least ≤ n && n ≤ most

/-- The text after a character at its start. -/
def after? (c : Char) : List Char → Option (List Char)
  | d :: more => if d = c then some more else none
  | [] => none

/-- A date whose month and day are in range. -/
def date? (cs : List Char) : Option (Date × List Char) := do
  let (year, cs) ← fixed? 4 cs
  let (month, cs) ← twoDigits? 1 12 (← after? '-' cs)
  let (day, cs) ← twoDigits? 1 31 (← after? '-' cs)
  return (⟨year, month, day⟩, cs)

/-- Millionths of a second, if a point and digits follow. -/
def micros (cs : List Char) : Nat × List Char :=
  match cs with
  | '.' :: more =>
    let ds := more.takeWhile isDecimal
    if ds.isEmpty then (0, cs)
    else (numberOf 10 ((ds ++ List.replicate 6 '0').take 6), more.dropWhile isDecimal)
  | _ => (0, cs)

/-- A time of day. -/
def clock? (cs : List Char) : Option (Clock × List Char) := do
  let (hour, cs) ← twoDigits? 0 23 cs
  let (minute, cs) ← twoDigits? 0 59 (← after? ':' cs)
  let (second, cs) ← twoDigits? 0 59 (← after? ':' cs)
  let (micro, cs) := micros cs
  return (⟨hour, minute, second, micro⟩, cs)

/-- Hours and minutes, in minutes. -/
def span? (cs : List Char) : Option (Int × List Char) := do
  let (hours, cs) ← twoDigits? 0 23 cs
  let (minutes, cs) ← twoDigits? 0 59 (← after? ':' cs)
  return ((60 * hours + minutes : Nat), cs)

/-- An offset from universal time, if one follows. -/
def offset (cs : List Char) : Option Int × List Char :=
  match cs with
  | 'Z' :: more => (some 0, more)
  | 'z' :: more => (some 0, more)
  | '+' :: more =>
    match span? more with
    | some (minutes, left) => (some minutes, left)
    | none => (none, cs)
  | '-' :: more =>
    match span? more with
    | some (minutes, left) => (some (-minutes), left)
    | none => (none, cs)
  | _ => (none, cs)

/-- A time of day after the mark that joins it to a date. -/
def joinedClock? : List Char → Option (Clock × List Char)
  | c :: more => if c = 'T' || c = 't' || c = ' ' then clock? more else none
  | [] => none

/-- What follows a date: a time of day with its offset, or nothing. -/
def momentOf (d : Date) (cs : List Char) : Moment × List Char :=
  match joinedClock? cs with
  | some (c, more) =>
    let (minutes, left) := offset more
    (.full d c minutes, left)
  | none => (.date d, cs)

/-- A date, a time of day, or both. -/
def moment? (cs : List Char) : Option (Except ReadError Value × List Char) :=
  match date? cs with
  | some (d, more) =>
    let (m, left) := momentOf d more
    some (if d.isValid then .ok (.moment m) else .error .malformed, left)
  | none => (clock? cs).map fun (c, left) => (.ok (.moment (.clock c)), left)

end CoverageDiff.Toml
