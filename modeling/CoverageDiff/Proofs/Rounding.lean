import CoverageDiff.Decimal.Binary64
import Mathlib.Algebra.Order.Field.Power
import Mathlib.Data.Rat.Cast.Order
import Mathlib.Tactic.FieldSimp
import Mathlib.Tactic.Linarith
import Mathlib.Tactic.NormNum
import Mathlib.Tactic.Positivity
import Mathlib.Tactic.Ring

/-!
# CoverageDiff.Proofs.Rounding

From which decimals on a rounded number reaches a threshold.

A number is rounded on a grid of width `2 ^ q` that is chosen so that 53 binary
digits are left (`Rounded`).  A threshold `K · 2 ^ q₀` with an even `K` of 53
digits is reached from the midpoint below it on (`Rounded.le_iff`): on the
grid of the threshold because ties go to the even number, on a finer grid never,
and on a coarser one always.  The three thresholds of interest are instances:
one, a hundred, and the first power of two that is too large.
-/

namespace CoverageDiff

namespace Binary64

/-! ## Rounding to a whole number -/

/-- Twice a quotient, with the remainder rounded to the half. -/
theorem two_mul_div {num den : ℕ} (hden : 0 < den) :
    2 * num / den = 2 * (num / den) + 2 * (num % den) / den := by
  have hsplit : 2 * num = den * (2 * (num / den)) + 2 * (num % den) := by
    have hnum := Nat.div_add_mod num den
    rw [← Nat.mul_left_comm]
    omega
  rw [hsplit, Nat.mul_add_div hden]

/-- An even number is reached from the midpoint below it on. -/
theorem le_roundDiv_iff {num den k : ℕ} (hden : 0 < den) (hk : k % 2 = 0) :
    k ≤ roundDiv num den ↔ 2 * k * den ≤ 2 * num + den := by
  have hmod := Nat.mod_lt num hden
  rw [← Nat.le_div_iff_mul_le hden, Nat.add_div_right _ hden, two_mul_div hden, roundDiv]
  split
  · next hlt =>
      rw [Nat.div_eq_of_lt hlt]
      omega
  · next hnlt =>
      have hhalf : 2 * (num % den) / den = 1 := Nat.div_eq_of_lt_le (by omega) (by omega)
      rw [hhalf]
      split
      · omega
      · split <;> omega

theorem roundDiv_le {num den N : ℕ} (hden : 0 < den) (h : num < N * den) :
    roundDiv num den ≤ N := by
  have hfloor : num / den < N := (Nat.div_lt_iff_lt_mul hden).mpr h
  rw [roundDiv]
  split
  · omega
  · split
    · omega
    · split <;> omega

/-! ## Rounding on a grid -/

/-- `m · 2 ^ q` is `v` rounded on the grid of `2 ^ q`: even numbers are reached from the midpoint
below them on, and the grid leaves 53 digits, fewer only on the finest grid. -/
structure Rounded (v : ℚ) (m : ℕ) (q : ℤ) : Prop where
  below : v < 2 ^ 53 * 2 ^ q
  above : -1074 < q → 2 ^ 52 * 2 ^ q ≤ v
  le : m ≤ 2 ^ 53
  reaches : ∀ k : ℕ, k % 2 = 0 → (k ≤ m ↔ (2 * k - 1) * 2 ^ (q - 1) ≤ v)

theorem two_zpow_pos (q : ℤ) : (0 : ℚ) < 2 ^ q :=
  zpow_pos two_pos q

theorem two_mul_two_zpow (q : ℤ) : (2 : ℚ) * 2 ^ (q - 1) = 2 ^ q := by
  rw [← zpow_one_add₀ two_ne_zero]
  congr 1
  omega

theorem two_pow_mul_two_zpow (n : ℕ) (q : ℤ) : (2 : ℚ) ^ n * 2 ^ q = 2 ^ (n + q) := by
  rw [← zpow_natCast, ← zpow_add₀ two_ne_zero]

theorem two_zpow_le {q q' : ℤ} (h : q ≤ q') : (2 : ℚ) ^ q ≤ 2 ^ q' :=
  zpow_le_zpow_right₀ one_le_two h

namespace Rounded

variable {v : ℚ} {m : ℕ} {q : ℤ}

/-- On a grid with 53 digits the rounded number has 53 digits. -/
theorem two_pow_le (h : Rounded v m q) (hq : -1074 < q) : 2 ^ 52 ≤ m := by
  rw [h.reaches (2 ^ 52) (by norm_num)]
  have habove := h.above hq
  rw [← two_mul_two_zpow q] at habove
  have hpos := two_zpow_pos (q - 1)
  push_cast
  linarith

/-- **Thresholds**: an even number of 53 digits on any grid is reached from the midpoint below it
on. -/
theorem le_iff (h : Rounded v m q) {K : ℕ} {q₀ : ℤ} (hK : 2 ^ 52 < K) (hK' : K ≤ 2 ^ 53)
    (heven : K % 2 = 0) (hq₀ : -1074 ≤ q₀) :
    (K * 2 ^ q₀ : ℚ) ≤ m * 2 ^ q ↔ (2 * K - 1) * 2 ^ (q₀ - 1) ≤ v := by
  have hKq : (2 ^ 52 + 1 : ℚ) ≤ K := by exact_mod_cast hK
  have hKq' : (K : ℚ) ≤ 2 ^ 53 := by exact_mod_cast hK'
  have hpos := two_zpow_pos q
  rcases lt_trichotomy q q₀ with hlt | rfl | hgt
  · -- the grid is finer, so the number is too small
    have hstep : (2 : ℚ) ^ q ≤ 2 ^ (q₀ - 1) := two_zpow_le (by omega)
    have hm : (m : ℚ) ≤ 2 ^ 53 := by exact_mod_cast h.le
    have hleft : (m * 2 ^ q : ℚ) < K * 2 ^ q₀ := by
      calc (m * 2 ^ q : ℚ) ≤ 2 ^ 53 * 2 ^ q := by gcongr
        _ < 2 * K * 2 ^ q := by gcongr; linarith
        _ ≤ 2 * K * 2 ^ (q₀ - 1) := by gcongr
        _ = K * 2 ^ q₀ := by rw [← two_mul_two_zpow q₀]; ring
    have hright : v < (2 * K - 1) * 2 ^ (q₀ - 1) := by
      calc v < 2 ^ 53 * 2 ^ q := h.below
        _ ≤ (2 * K - 1) * 2 ^ q := by gcongr; linarith
        _ ≤ (2 * K - 1) * 2 ^ (q₀ - 1) := by gcongr; linarith
    exact iff_of_false (not_le.mpr hleft) (not_le.mpr hright)
  · rw [← h.reaches K heven, mul_le_mul_iff_left₀ hpos, Nat.cast_le]
  · -- the grid is coarser, so the number has 53 digits of it
    have hstep : (2 : ℚ) * 2 ^ q₀ ≤ 2 ^ q := by
      rw [← two_mul_two_zpow q]
      gcongr
      · norm_num
      · omega
    have hm : (2 ^ 52 : ℚ) ≤ m := by exact_mod_cast h.two_pow_le (by omega)
    have hleft : (K * 2 ^ q₀ : ℚ) ≤ m * 2 ^ q := by
      calc (K * 2 ^ q₀ : ℚ) ≤ 2 ^ 53 * 2 ^ q₀ := by gcongr
        _ = 2 ^ 52 * (2 * 2 ^ q₀) := by ring
        _ ≤ m * 2 ^ q := by gcongr
    have hright : (2 * K - 1) * 2 ^ (q₀ - 1) ≤ v := by
      have hpos₀ := two_zpow_pos (q₀ - 1)
      calc ((2 * K - 1) * 2 ^ (q₀ - 1) : ℚ) ≤ 2 ^ 53 * (2 * 2 ^ (q₀ - 1)) := by
            rw [← mul_assoc]
            gcongr
            linarith
        _ = 2 ^ 52 * (2 * 2 ^ q₀) := by rw [two_mul_two_zpow]; ring
        _ ≤ 2 ^ 52 * 2 ^ q := by gcongr
        _ ≤ v := h.above (by omega)
    exact iff_of_true hleft hright

end Rounded

/-! ## Rounding a ratio -/

/-- A ratio on a grid, as it is divided. -/
theorem scaled_eq (num : ℕ) {den : ℕ} (hden : 0 < den) (q : ℤ) :
    0 < (scaled num den q).2 ∧
      ((scaled num den q).1 : ℚ) = num / den / 2 ^ q * (scaled num den q).2 := by
  have hdenq : (den : ℚ) ≠ 0 := by exact_mod_cast hden.ne'
  have hpow := (two_zpow_pos q).ne'
  by_cases hq : q < 0
  · obtain ⟨n, rfl⟩ := Int.exists_eq_neg_ofNat hq.le
    rw [scaled, if_pos hq]
    refine ⟨hden, ?_⟩
    simp only [neg_neg, Int.toNat_natCast, Nat.pow_eq, zpow_neg, zpow_natCast]
    push_cast
    field_simp
  · obtain ⟨n, rfl⟩ := Int.eq_ofNat_of_zero_le (not_lt.mp hq)
    rw [scaled, if_neg hq]
    refine ⟨Nat.mul_pos hden (Nat.pow_pos two_pos), ?_⟩
    simp only [Int.toNat_natCast, Nat.pow_eq, zpow_natCast]
    push_cast
    field_simp

/-- A whole multiple of the grid is below a ratio if it is so on the grid. -/
theorem mul_le_scaled_iff (num : ℕ) {den : ℕ} (hden : 0 < den) (q : ℤ) (k : ℕ) :
    k * (scaled num den q).2 ≤ (scaled num den q).1 ↔ (k * 2 ^ q : ℚ) ≤ num / den := by
  obtain ⟨hpos, hscaled⟩ := scaled_eq num hden q
  have hposq : (0 : ℚ) < (scaled num den q).2 := by exact_mod_cast hpos
  rw [← Nat.cast_le (α := ℚ), Nat.cast_mul, hscaled, mul_le_mul_iff_left₀ hposq,
    le_div_iff₀ (two_zpow_pos q)]

/-- A ratio is rounded on every grid that is coarse enough for it. -/
theorem rounded_roundDiv {num den : ℕ} (hden : 0 < den) {q : ℤ}
    (hbelow : (num / den : ℚ) < 2 ^ 53 * 2 ^ q)
    (habove : -1074 < q → 2 ^ 52 * 2 ^ q ≤ (num / den : ℚ)) :
    Rounded (num / den) (roundDiv (scaled num den q).1 (scaled num den q).2) q where
  below := hbelow
  above := habove
  le := by
    obtain ⟨hpos, _⟩ := scaled_eq num hden q
    refine roundDiv_le hpos ?_
    rw [← not_le, mul_le_scaled_iff num hden q]
    push_cast
    exact not_le.mpr hbelow
  reaches k hk := by
    obtain ⟨hpos, hscaled⟩ := scaled_eq num hden q
    have hposq : (0 : ℚ) < (scaled num den q).2 := by exact_mod_cast hpos
    have hgrid := two_mul_two_zpow q
    rw [le_roundDiv_iff hpos hk, ← Nat.cast_le (α := ℚ)]
    push_cast
    rw [hscaled, ← sub_le_iff_le_add, ← sub_one_mul, ← mul_assoc, mul_le_mul_iff_left₀ hposq,
      mul_div_assoc', le_div_iff₀ (two_zpow_pos q), ← hgrid]
    constructor <;> intro h <;> linarith

/-- A ratio with whole logarithms of its parts lies between two powers of two. -/
theorem ratio_bounds {num den : ℕ} (hnum : 0 < num) (hden : 0 < den) :
    2 ^ 52 * 2 ^ ((num.log2 : ℤ) - den.log2 - 53) ≤ (num / den : ℚ) ∧
      (num / den : ℚ) < 2 ^ 53 * 2 ^ ((num.log2 : ℤ) - den.log2 - 53 + 1) := by
  have hnumLow : (2 ^ num.log2 : ℚ) ≤ num := by exact_mod_cast Nat.log2_self_le hnum.ne'
  have hnumHigh : (num : ℚ) < 2 ^ (num.log2 + 1) := by exact_mod_cast Nat.lt_log2_self
  have hdenLow : (2 ^ den.log2 : ℚ) ≤ den := by exact_mod_cast Nat.log2_self_le hden.ne'
  have hdenHigh : (den : ℚ) < 2 ^ (den.log2 + 1) := by exact_mod_cast Nat.lt_log2_self
  have hdenq : (0 : ℚ) < den := by exact_mod_cast hden
  rw [le_div_iff₀ hdenq, div_lt_iff₀ hdenq]
  constructor
  · calc 2 ^ 52 * 2 ^ ((num.log2 : ℤ) - den.log2 - 53) * (den : ℚ)
        ≤ 2 ^ 52 * 2 ^ ((num.log2 : ℤ) - den.log2 - 53) * 2 ^ (den.log2 + 1) := by gcongr
      _ = 2 ^ num.log2 := by
        rw [mul_comm, two_pow_mul_two_zpow, two_pow_mul_two_zpow, ← zpow_natCast]
        congr 1
        push_cast
        omega
      _ ≤ num := hnumLow
  · calc (num : ℚ) < 2 ^ (num.log2 + 1) := hnumHigh
      _ = 2 ^ 53 * 2 ^ ((num.log2 : ℤ) - den.log2 - 53 + 1) * 2 ^ den.log2 := by
        rw [mul_comm _ (2 ^ den.log2), two_pow_mul_two_zpow, two_pow_mul_two_zpow, ← zpow_natCast]
        congr 1
        push_cast
        omega
      _ ≤ 2 ^ 53 * 2 ^ ((num.log2 : ℤ) - den.log2 - 53 + 1) * den := by gcongr

/-- The number with 53 digits, or an infinity. -/
def pack (negative : Bool) (m : ℕ) (q : ℤ) : Binary64 :=
  let (m, q) := if m = Nat.pow 2 53 then (Nat.pow 2 52, q + 1) else (m, q)
  if 971 < q then .infinite negative else .finite negative m q

/-- A ratio is rounded on a grid that leaves 53 digits of it. -/
theorem ofRatio_eq_pack (negative : Bool) {num den : ℕ} (hnum : 0 < num) (hden : 0 < den) :
    ∃ m q, Rounded (num / den) m q ∧ ofRatio negative num den = pack negative m q := by
  obtain ⟨hlow, hhigh⟩ := ratio_bounds hnum hden
  obtain ⟨rough, hrough⟩ : ∃ rough : ℤ, rough = (num.log2 : ℤ) - den.log2 - 53 := ⟨_, rfl⟩
  rw [← hrough] at hlow hhigh
  obtain ⟨exact, hexact⟩ : ∃ exact : ℤ, exact =
    if Nat.pow 2 53 * (scaled num den rough).2 ≤ (scaled num den rough).1 then rough + 1
    else rough := ⟨_, rfl⟩
  have hpack : ofRatio negative num den =
      pack negative (roundDiv (scaled num den (max exact (-1074))).1
        (scaled num den (max exact (-1074))).2) (max exact (-1074)) := by
    rw [ofRatio, if_neg hnum.ne', hexact, hrough]
    rfl
  -- the grid leaves 53 digits, unless it would be finer than the finest
  have hdigits : 2 ^ 52 * 2 ^ exact ≤ (num / den : ℚ) ∧ (num / den : ℚ) < 2 ^ 53 * 2 ^ exact := by
    have hcut := mul_le_scaled_iff num hden rough (2 ^ 53)
    push_cast at hcut
    rw [hexact]
    split
    · next hle =>
        have hstep : (2 : ℚ) ^ 52 * 2 ^ (rough + 1) = 2 ^ 53 * 2 ^ rough := by
          rw [zpow_add_one₀ two_ne_zero]
          ring
        rw [hstep]
        exact ⟨hcut.mp hle, hhigh⟩
    · next hnle => exact ⟨hlow, not_le.mp fun hle => hnle (hcut.mpr hle)⟩
  refine ⟨_, _, rounded_roundDiv hden ?_ ?_, hpack⟩
  · have hgrid : (2 : ℚ) ^ exact ≤ 2 ^ max exact (-1074) := two_zpow_le (le_max_left _ _)
    calc (num / den : ℚ) < 2 ^ 53 * 2 ^ exact := hdigits.2
      _ ≤ 2 ^ 53 * 2 ^ max exact (-1074) := by gcongr
  · intro hq
    have hmax : max exact (-1074) = exact := by omega
    rw [hmax]
    exact hdigits.1

/-- From here on a magnitude is rounded to an infinity. -/
def limit : ℚ := (2 ^ 54 - 1) * 2 ^ (970 : ℤ)

/-- What a magnitude is rounded to: an infinity from the limit on, and else a number that reaches
the same thresholds, each from the midpoint below it on. -/
structure RoundsTo (v : ℚ) (negative : Bool) (b : Binary64) : Prop where
  infinite : limit ≤ v → b = .infinite negative
  finite : v < limit → ∃ m q, b = .finite negative m q ∧
    ∀ (K : ℕ) (q₀ : ℤ), 2 ^ 52 < K → K ≤ 2 ^ 53 → K % 2 = 0 → -1074 ≤ q₀ →
      ((K * 2 ^ q₀ : ℚ) ≤ m * 2 ^ q ↔ (2 * K - 1) * 2 ^ (q₀ - 1) ≤ v)

/-- A number that is too large is an infinity, and any other is kept. -/
theorem Rounded.pack_cases {v : ℚ} {m : ℕ} {q : ℤ} (h : Rounded v m q) (negative : Bool) :
    (2 ^ 53 * 2 ^ (971 : ℤ) ≤ (m * 2 ^ q : ℚ) ∧ pack negative m q = .infinite negative) ∨
      ((m * 2 ^ q : ℚ) < 2 ^ 53 * 2 ^ (971 : ℤ) ∧
        ∃ (m' : ℕ) (q' : ℤ), pack negative m q = .finite negative m' q' ∧
          (m' * 2 ^ q' : ℚ) = m * 2 ^ q) := by
  have hpos := two_zpow_pos q
  by_cases hcarry : m = 2 ^ 53
  · have hpack : pack negative m q =
        if 971 < q + 1 then .infinite negative else .finite negative (2 ^ 52) (q + 1) := by
      rw [pack, if_pos (show m = Nat.pow 2 53 from hcarry)]
      rfl
    have hm : (m : ℚ) = 2 ^ 53 := by exact_mod_cast hcarry
    rw [hpack, hm]
    by_cases hq : 971 < q + 1
    · have hle : (2 : ℚ) ^ (971 : ℤ) ≤ 2 ^ q := two_zpow_le (by omega)
      rw [if_pos hq]
      exact .inl ⟨by gcongr, rfl⟩
    · have hlt : (2 : ℚ) ^ q < 2 ^ (971 : ℤ) := zpow_lt_zpow_right₀ one_lt_two (by omega)
      rw [if_neg hq]
      refine .inr ⟨by gcongr, _, _, rfl, ?_⟩
      rw [zpow_add_one₀ two_ne_zero]
      push_cast
      ring
  · have hpack : pack negative m q =
        if 971 < q then .infinite negative else .finite negative m q := by
      rw [pack, if_neg (show ¬m = Nat.pow 2 53 from hcarry)]
    rw [hpack]
    by_cases hq : 971 < q
    · have hm : (2 ^ 52 : ℚ) ≤ m := by exact_mod_cast h.two_pow_le (by omega)
      have hle : (2 : ℚ) ^ (971 : ℤ) ≤ 2 ^ (q - 1) := two_zpow_le (by omega)
      rw [if_pos hq]
      refine .inl ⟨?_, rfl⟩
      calc (2 ^ 53 * 2 ^ (971 : ℤ) : ℚ) ≤ 2 ^ 53 * 2 ^ (q - 1) := by gcongr
        _ = 2 ^ 52 * 2 ^ q := by rw [← two_mul_two_zpow q]; ring
        _ ≤ m * 2 ^ q := by gcongr
    · have hm : (m : ℚ) < 2 ^ 53 := by exact_mod_cast lt_of_le_of_ne h.le hcarry
      have hle : (2 : ℚ) ^ q ≤ 2 ^ (971 : ℤ) := two_zpow_le (by omega)
      rw [if_neg hq]
      refine .inr ⟨?_, _, _, rfl, rfl⟩
      calc (m * 2 ^ q : ℚ) < 2 ^ 53 * 2 ^ q := by gcongr
        _ ≤ 2 ^ 53 * 2 ^ (971 : ℤ) := by gcongr

theorem Rounded.roundsTo {v : ℚ} {m : ℕ} {q : ℤ} (h : Rounded v m q) (negative : Bool) :
    RoundsTo v negative (pack negative m q) := by
  have hlimit : (2 ^ 53 * 2 ^ (971 : ℤ) : ℚ) ≤ m * 2 ^ q ↔ limit ≤ v := by
    have hcut := h.le_iff (K := 2 ^ 53) (by norm_num) le_rfl (by norm_num)
      (by norm_num : (-1074 : ℤ) ≤ 971)
    have hmidpoint : (2 * ((2 ^ 53 : ℕ) : ℚ) - 1) * 2 ^ ((971 : ℤ) - 1) = limit := by
      have hexponent : (971 : ℤ) - 1 = 970 := by norm_num
      have hdigits : 2 * ((2 ^ 53 : ℕ) : ℚ) - 1 = 2 ^ 54 - 1 := by norm_num
      rw [hexponent, hdigits, limit]
    rw [← hmidpoint, ← hcut, Nat.cast_pow, Nat.cast_ofNat]
  rcases h.pack_cases negative with ⟨hle, hpack⟩ | ⟨hlt, m', q', hpack, hvalue⟩
  · exact ⟨fun _ => hpack, fun hv => absurd (hlimit.mp hle) (not_le.mpr hv)⟩
  · refine ⟨fun hv => absurd (hlimit.mpr hv) (not_le.mpr hlt), fun _ => ⟨m', q', hpack, ?_⟩⟩
    intro K q₀ hK hK' heven hq₀
    rw [hvalue, h.le_iff hK hK' heven hq₀]

theorem roundsTo_ofRatio (negative : Bool) {num den : ℕ} (hnum : 0 < num) (hden : 0 < den) :
    RoundsTo (num / den) negative (ofRatio negative num den) := by
  obtain ⟨m, q, hround, hpack⟩ := ofRatio_eq_pack negative hnum hden
  rw [hpack]
  exact hround.roundsTo negative

/-! ## Rounding a decimal -/

/-- The magnitude of a decimal fraction. -/
def decimalMagnitude (mantissa : ℕ) (exponent : ℤ) : ℚ :=
  mantissa * 10 ^ exponent

/-- A number has no more decimal digits than a third of its binary ones, and one. -/
theorem lt_ten_pow (mantissa : ℕ) : mantissa < 10 ^ (mantissa.log2 / 3 + 1) := by
  calc mantissa < 2 ^ (mantissa.log2 + 1) := Nat.lt_log2_self
    _ ≤ 2 ^ (3 * (mantissa.log2 / 3 + 1)) := Nat.pow_le_pow_right two_pos (by omega)
    _ = 8 ^ (mantissa.log2 / 3 + 1) := by rw [Nat.pow_mul]
    _ ≤ 10 ^ (mantissa.log2 / 3 + 1) := Nat.pow_le_pow_left (by norm_num) _

theorem two_zpow_le_ten_zpow (n : ℕ) : (2 : ℚ) ^ (3 * n : ℤ) ≤ 10 ^ (n : ℤ) := by
  rw [zpow_mul, zpow_natCast, zpow_natCast]
  exact pow_le_pow_left₀ (by positivity) (by norm_num) n

/-- The magnitudes that are infinite because of their exponent are beyond the limit. -/
theorem limit_le_ten_zpow : limit ≤ 10 ^ (400 : ℤ) := by
  calc limit ≤ 2 ^ 54 * 2 ^ (970 : ℤ) := by rw [limit]; gcongr; norm_num
    _ = 2 ^ (1024 : ℤ) := two_pow_mul_two_zpow 54 970
    _ ≤ 2 ^ (3 * (400 : ℕ) : ℤ) := two_zpow_le (by norm_num)
    _ ≤ 10 ^ (400 : ℤ) := two_zpow_le_ten_zpow 400

/-- The least midpoint of a threshold. -/
def least : ℚ := 2 ^ 52 * 2 ^ (-1075 : ℤ)

theorem ten_zpow_lt_least : (10 : ℚ) ^ (-400 : ℤ) < least := by
  have hinv : (10 : ℚ) ^ (-400 : ℤ) ≤ 2 ^ (-(3 * (400 : ℕ)) : ℤ) := by
    rw [zpow_neg, zpow_neg]
    exact inv_anti₀ (two_zpow_pos _) (two_zpow_le_ten_zpow 400)
  calc (10 : ℚ) ^ (-400 : ℤ) ≤ 2 ^ (-(3 * (400 : ℕ)) : ℤ) := hinv
    _ < 2 ^ (-1023 : ℤ) := zpow_lt_zpow_right₀ one_lt_two (by norm_num)
    _ = least := by rw [least, two_pow_mul_two_zpow]; norm_num

/-- What is below every midpoint of a threshold is rounded to zero. -/
theorem roundsTo_zero {v : ℚ} (hv : v < least) (negative : Bool) :
    RoundsTo v negative (.finite negative 0 (-1074)) where
  infinite hlimit := by
    have hle : least ≤ limit := by
      rw [least, limit]
      gcongr
      · norm_num
      · norm_num
      · norm_num
    exact absurd (hle.trans hlimit) (not_le.mpr hv)
  finite _ := by
    refine ⟨0, -1074, rfl, ?_⟩
    intro K q₀ hK hK' heven hq₀
    have hKq : (2 ^ 52 : ℚ) < K := by exact_mod_cast hK
    have hpos := two_zpow_pos q₀
    have hleft : ¬(K * 2 ^ q₀ : ℚ) ≤ (0 : ℕ) * 2 ^ (-1074 : ℤ) := by
      rw [Nat.cast_zero, zero_mul, not_le]
      positivity
    have hright : v < (2 * K - 1) * 2 ^ (q₀ - 1) := by
      have hgrid : (2 : ℚ) ^ (-1075 : ℤ) ≤ 2 ^ (q₀ - 1) := two_zpow_le (by omega)
      calc v < 2 ^ 52 * 2 ^ (-1075 : ℤ) := hv
        _ ≤ (2 * K - 1) * 2 ^ (-1075 : ℤ) := by gcongr; linarith
        _ ≤ (2 * K - 1) * 2 ^ (q₀ - 1) := by gcongr; linarith
    exact iff_of_false hleft (not_le.mpr hright)

/-- **Decimals** are rounded by their magnitude. -/
theorem roundsTo_ofDecimal (negative : Bool) (mantissa : ℕ) (exponent : ℤ) :
    RoundsTo (decimalMagnitude mantissa exponent) negative
      (ofDecimal (.fraction negative mantissa exponent)) := by
  have hzero : (0 : ℚ) < least := by
    rw [least]
    positivity
  rw [ofDecimal]
  by_cases hmantissa : mantissa = 0
  · rw [if_pos hmantissa, decimalMagnitude, hmantissa, Nat.cast_zero, zero_mul]
    exact roundsTo_zero hzero negative
  have hpos : 0 < mantissa := Nat.pos_of_ne_zero hmantissa
  rw [if_neg hmantissa]
  split
  · next hlarge =>
      have hone : (1 : ℚ) ≤ mantissa := by exact_mod_cast hpos
      have hle : limit ≤ decimalMagnitude mantissa exponent := by
        calc limit ≤ 10 ^ (400 : ℤ) := limit_le_ten_zpow
          _ ≤ 10 ^ exponent := zpow_le_zpow_right₀ (by norm_num) hlarge.le
          _ ≤ mantissa * 10 ^ exponent := le_mul_of_one_le_left (by positivity) hone
      exact ⟨fun _ => rfl, fun hlt => absurd hle (not_le.mpr hlt)⟩
  · split
    · next hsmall =>
        refine roundsTo_zero ?_ negative
        have hdigits : (mantissa : ℚ) < 10 ^ (mantissa.log2 / 3 + 1) := by
          exact_mod_cast lt_ten_pow mantissa
        calc decimalMagnitude mantissa exponent
            < 10 ^ (mantissa.log2 / 3 + 1) * 10 ^ exponent := by rw [decimalMagnitude]; gcongr
          _ = 10 ^ (exponent + ((mantissa.log2 : ℤ) / 3 + 1)) := by
            rw [← zpow_natCast, ← zpow_add₀ (by norm_num), add_comm]
            push_cast
            rfl
          _ ≤ 10 ^ (-400 : ℤ) := zpow_le_zpow_right₀ (by norm_num) hsmall.le
          _ < least := ten_zpow_lt_least
    · split
      · next hneg =>
          obtain ⟨n, rfl⟩ := Int.exists_eq_neg_ofNat hneg.le
          have hvalue : decimalMagnitude mantissa (-(n : ℤ)) = mantissa / (Nat.pow 10 n : ℕ) := by
            rw [decimalMagnitude, zpow_neg, zpow_natCast, div_eq_mul_inv, Nat.pow_eq, Nat.cast_pow,
              Nat.cast_ofNat]
          rw [neg_neg, Int.toNat_natCast, hvalue]
          exact roundsTo_ofRatio negative hpos (Nat.pow_pos (by norm_num))
      · next hnneg =>
          obtain ⟨n, rfl⟩ := Int.eq_ofNat_of_zero_le (not_lt.mp hnneg)
          have hvalue : decimalMagnitude mantissa n =
              (mantissa * Nat.pow 10 n : ℕ) / (1 : ℕ) := by
            rw [decimalMagnitude, zpow_natCast, Nat.cast_one, div_one, Nat.pow_eq]
            push_cast
            rfl
          rw [Int.toNat_natCast, hvalue]
          exact roundsTo_ofRatio negative (Nat.mul_pos hpos (Nat.pow_pos (by norm_num))) one_pos

/-! ## Whole parts -/

/-- The whole part of a magnitude. -/
def wholePart (m : ℕ) (q : ℤ) : ℕ :=
  if q < 0 then m / Nat.pow 2 (-q).toNat else m * Nat.pow 2 q.toNat

theorem le_wholePart_iff {m k : ℕ} {q : ℤ} : k ≤ wholePart m q ↔ (k : ℚ) ≤ m * 2 ^ q := by
  rw [wholePart]
  split
  · next hq =>
      obtain ⟨n, rfl⟩ := Int.exists_eq_neg_ofNat hq.le
      have hpos : (0 : ℚ) < 2 ^ n := by positivity
      rw [neg_neg, Int.toNat_natCast, Nat.pow_eq, Nat.le_div_iff_mul_le (Nat.pow_pos two_pos),
        zpow_neg, zpow_natCast, ← div_eq_mul_inv, le_div_iff₀ hpos]
      exact_mod_cast Iff.rfl
  · next hq =>
      obtain ⟨n, rfl⟩ := Int.eq_ofNat_of_zero_le (not_lt.mp hq)
      rw [Int.toNat_natCast, Nat.pow_eq, zpow_natCast]
      exact_mod_cast Iff.rfl

/-- A number with a sign. -/
def signed (negative : Bool) (n : ℕ) : ℤ :=
  if negative then -(n : ℤ) else n

/-- **Whole parts of decimals**: from the limit on there is none.  Below, the whole part of the
rounded magnitude is at least a hundred, or one, from the midpoint below it on. -/
theorem truncate_ofDecimal (negative : Bool) (mantissa : ℕ) (exponent : ℤ) :
    (limit ≤ decimalMagnitude mantissa exponent →
      (ofDecimal (.fraction negative mantissa exponent)).truncate = .error .infinite) ∧
    (decimalMagnitude mantissa exponent < limit → ∃ whole : ℕ,
      (ofDecimal (.fraction negative mantissa exponent)).truncate = .ok (signed negative whole) ∧
      (100 ≤ whole ↔ 100 - 1 / 2 ^ 47 ≤ decimalMagnitude mantissa exponent) ∧
      (1 ≤ whole ↔ 1 - 1 / 2 ^ 54 ≤ decimalMagnitude mantissa exponent)) := by
  have hround := roundsTo_ofDecimal negative mantissa exponent
  constructor
  · intro hlimit
    rw [hround.infinite hlimit]
    rfl
  · intro hlimit
    obtain ⟨m, q, hfinite, hreaches⟩ := hround.finite hlimit
    refine ⟨wholePart m q, ?_, ?_, ?_⟩
    · rw [hfinite]
      rfl
    · have hhundred := hreaches (100 * 2 ^ 46) (-46) (by norm_num) (by norm_num) (by norm_num)
        (by norm_num)
      have hvalue : (((100 * 2 ^ 46 : ℕ) : ℚ) * 2 ^ (-46 : ℤ)) = (100 : ℕ) := by norm_num
      have hmidpoint : (2 * ((100 * 2 ^ 46 : ℕ) : ℚ) - 1) * 2 ^ ((-46 : ℤ) - 1) =
          100 - 1 / 2 ^ 47 := by norm_num
      rw [le_wholePart_iff, ← hvalue, hhundred, hmidpoint]
    · have hone := hreaches (2 ^ 53) (-53) (by norm_num) le_rfl (by norm_num) (by norm_num)
      have hvalue : (((2 ^ 53 : ℕ) : ℚ) * 2 ^ (-53 : ℤ)) = (1 : ℕ) := by norm_num
      have hmidpoint : (2 * ((2 ^ 53 : ℕ) : ℚ) - 1) * 2 ^ ((-53 : ℤ) - 1) =
          1 - 1 / 2 ^ 54 := by norm_num
      rw [le_wholePart_iff, ← hvalue, hone, hmidpoint]

end Binary64

end CoverageDiff
