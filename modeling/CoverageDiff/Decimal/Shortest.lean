import CoverageDiff.Decimal.Binary64

/-!
# CoverageDiff.Decimal.Shortest

Binary numbers as short decimals.

1. A number is shown with the fewest digits of which it is the nearest binary
   number; of several such decimals, with the one nearest to it, and of two
   equally near ones with the one whose last digit is even.
2. The numbers that round to `m · 2 ^ q` lie between the midpoints to its two
   neighbours; the midpoints themselves belong to them if `m` is even.
3. Magnitudes from `10 ^ -4` to below `10 ^ 16` are written with a point and at
   least one digit after it, others with one digit before the point and an
   exponent of at least two digits.
-/

namespace CoverageDiff

namespace Binary64

/-! ## The digits -/

/-- The number `digits · 10 ^ exponent`. -/
structure Digits where
  /-- The digits as one whole number. -/
  digits : Nat
  /-- The power of ten. -/
  exponent : Int
  deriving DecidableEq

/-- The ends of what rounds to `m · 2 ^ q`, in units of `2 ^ (q - 2)`. -/
def bounds (m : Nat) (q : Int) : Nat × Nat :=
  (if m = Nat.pow 2 52 && decide (-1074 < q) then 4 * m - 1 else 4 * m - 2, 4 * m + 2)

/-- `2 ^ (q - 2)` as a fraction of `10 ^ e`. -/
def quarterUnit (q e : Int) : Nat × Nat :=
  (Nat.pow 2 (q - 2).toNat * Nat.pow 10 (-e).toNat,
    Nat.pow 10 e.toNat * Nat.pow 2 (2 - q).toNat)

/-- Whether `d · 10 ^ e` rounds to `m · 2 ^ q`. -/
def roundsTo (m : Nat) (q : Int) (d : Nat) (e : Int) : Bool :=
  let (unit, whole) := quarterUnit q e
  let (low, high) := bounds m q
  let point := d * whole
  if m % 2 = 0 then decide (low * unit ≤ point) && decide (point ≤ high * unit)
  else decide (low * unit < point) && decide (point < high * unit)

/-- The multiple of `10 ^ e` below `m · 2 ^ q`, and how the rest compares with half a step. -/
def below (m : Nat) (q e : Int) : Nat × Ordering :=
  let (unit, whole) := quarterUnit q e
  let x := 4 * m * unit
  (x / whole, compare (2 * (x % whole)) whole)

/-- The multiple of `10 ^ e` next to `m · 2 ^ q` that rounds to it, the better one of two. -/
def onGrid? (m : Nat) (q e : Int) : Option Nat :=
  let (d, rest) := below m q e
  match roundsTo m q d e, roundsTo m q (d + 1) e with
  | false, false => none
  | true, false => some d
  | false, true => some (d + 1)
  | true, true =>
    match rest with
    | .lt => some d
    | .gt => some (d + 1)
    | .eq => if d % 2 = 0 then some d else some (d + 1)

/-- The digits on the coarsest of some grids that has a number rounding to `m · 2 ^ q`. -/
def search (m : Nat) (q : Int) : Nat → Int → Digits
  | 0, e => ⟨(below m q e).1, e⟩
  | grids + 1, e =>
    match onGrid? m q e with
    | some d => ⟨d, e⟩
    -- no point of this grid rounds back, so one more digit is needed
    | none => search m q grids (e - 1)

/-- How many digits a number has. -/
def digitCount (n : Nat) : Nat :=
  (Nat.toDigits 10 n).length

/-- A power of ten that is greater than `m · 2 ^ q`, and not much greater. -/
def magnitude (m : Nat) (q : Int) : Int :=
  let x := m * Nat.pow 2 q.toNat
  let y := Nat.pow 2 (-q).toNat
  if y ≤ x then digitCount (x / y) else 2 - (digitCount (y / x) : Int)

/-- The digits without zeros at the end. -/
def Digits.trimmed : Nat → Digits → Digits
  | 0, d => d
  | steps + 1, d =>
    if d.digits ≠ 0 && d.digits % 10 = 0 then trimmed steps ⟨d.digits / 10, d.exponent + 1⟩ else d

/-- Seventeen digits always suffice; one more grid makes up for the magnitude. -/
def grids : Nat := 18

/-- The shortest digits that read back as `m · 2 ^ q`. -/
def shortest (m : Nat) (q : Int) : Digits :=
  (search m q grids (magnitude m q - 1)).trimmed grids

/-! ## The text -/

/-- Zeros. -/
def zeros (n : Int) : String :=
  String.ofList (List.replicate n.toNat '0')

/-- Digits with a point after the first `places` of them. -/
def positional (digits : List Char) (places : Int) : String :=
  let text := String.ofList digits
  if places ≤ 0 then "0." ++ zeros (-places) ++ text
  else if (digits.length : Int) ≤ places then text ++ zeros (places - digits.length) ++ ".0"
  else String.ofList (digits.take places.toNat) ++ "." ++ String.ofList (digits.drop places.toNat)

/-- An exponent with its sign and at least two digits. -/
def exponentText (e : Int) : String :=
  let digits := toString e.natAbs
  (if e < 0 then "e-" else "e+") ++ zeros (2 - digits.length) ++ digits

/-- Digits with a point after the first and an exponent. -/
def scientific (digits : List Char) (exponent : Int) : String :=
  String.ofList (digits.take 1) ++ (if digits.length = 1 then "" else ".")
    ++ String.ofList (digits.drop 1) ++ exponentText exponent

/-- The text of a positive number. -/
def Digits.text (d : Digits) : String :=
  let digits := Nat.toDigits 10 d.digits
  let places := d.exponent + digits.length
  if -4 < places && places ≤ 16 then positional digits places
  else scientific digits (places - 1)

/-- The text of a number. -/
def text : Binary64 → String
  | .finite negative m q =>
    (if negative then "-" else "") ++ (if m = 0 then "0.0" else (shortest m q).text)
  | .infinite negative => if negative then "-inf" else "inf"
  | .nan => "nan"

end Binary64

end CoverageDiff
