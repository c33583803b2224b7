import CoverageDiff.Decimal.Basic

/-!
# CoverageDiff.Decimal.Binary64

Numbers of the form `m · 2 ^ q` with at most 53 binary digits, and rounding a
decimal to the nearest of them.

1. A nonzero magnitude has `2 ^ 52 ≤ m < 2 ^ 53`, or `q = -1074` and a
   smaller `m`.
2. Rounding goes to the nearest, a tie to the even `m`.
3. Magnitudes that would need `q > 971` become an infinity.
-/

namespace CoverageDiff

/-- A binary number with 53 digits and bounded exponent. -/
inductive Binary64 where
  /-- `m · 2 ^ q`, negated if `negative`. -/
  | finite (negative : Bool) (m : Nat) (q : Int)
  | infinite (negative : Bool)
  /-- Not a number. -/
  | nan
  deriving DecidableEq

namespace Binary64

/-! ## Rounding -/

/-- `num / den` rounded to the nearest whole number, a tie to the even one. -/
def roundDiv (num den : Nat) : Nat :=
  let floor := num / den
  let twice := 2 * (num % den)
  if twice < den then floor
  else if den < twice then floor + 1
  else if floor % 2 = 0 then floor else floor + 1

/-- `num / (den · 2 ^ q)` as a quotient of whole numbers. -/
def scaled (num den : Nat) (q : Int) : Nat × Nat :=
  if q < 0 then (num * Nat.pow 2 (-q).toNat, den) else (num, den * Nat.pow 2 q.toNat)

/-- The number nearest to `num / den`. -/
def ofRatio (negative : Bool) (num den : Nat) : Binary64 :=
  if num = 0 then .finite negative 0 (-1074)
  else
    let rough : Int := (Nat.log2 num : Int) - Nat.log2 den - 53
    let (n, d) := scaled num den rough
    let exact := if Nat.pow 2 53 * d ≤ n then rough + 1 else rough
    let q := max exact (-1074)
    let (n, d) := scaled num den q
    let m := roundDiv n d
    let (m, q) := if m = Nat.pow 2 53 then (Nat.pow 2 52, q + 1) else (m, q)
    if 971 < q then .infinite negative else .finite negative m q

/-- The number nearest to a decimal.  Exponents far outside the range decide at once. -/
def ofDecimal : Decimal → Binary64
  | .infinite negative => .infinite negative
  | .nan => .nan
  | .fraction negative mantissa exponent =>
    let size : Int := (Nat.log2 mantissa : Int) / 3 + 1
    if mantissa = 0 then .finite negative 0 (-1074)
    else if 400 < exponent then .infinite negative
    else if exponent + size < -400 then .finite negative 0 (-1074)
    else if exponent < 0 then ofRatio negative mantissa (Nat.pow 10 (-exponent).toNat)
    else ofRatio negative (mantissa * Nat.pow 10 exponent.toNat) 1

/-! ## Whole part -/

/-- Why a number has no whole part. -/
inductive NoWholePart where
  | infinite
  /-- It is not a number. -/
  | nan
  deriving DecidableEq

/-- The number without its fractional part. -/
def truncate : Binary64 → Except NoWholePart Int
  | .finite negative m q =>
    let whole : Nat := if q < 0 then m / Nat.pow 2 (-q).toNat else m * Nat.pow 2 q.toNat
    .ok (if negative then -(whole : Int) else whole)
  | .infinite _ => .error .infinite
  | .nan => .error .nan

end Binary64

end CoverageDiff
