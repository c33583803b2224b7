/-!
# CoverageDiff.Text.Ranges

Sets of characters given as ascending lists of closed code point ranges, the
form in which the tables of character properties are kept.
-/

namespace CoverageDiff.Text

/-- A closed range of code points, first and last. -/
abbrev Range := Nat × Nat

/-- Membership in ascending ranges; the walk ends at the first range that starts later. -/
def inRanges : List Range → Nat → Bool
  | [], _ => false
  | (lo, hi) :: rest, c =>
    if c < lo then false else if c ≤ hi then true else inRanges rest c

/-- Membership never sees a range that does not hold the code point. -/
theorem exists_of_inRanges {rs : List Range} {c : Nat} (h : inRanges rs c = true) :
    ∃ r ∈ rs, r.1 ≤ c ∧ c ≤ r.2 := by
  induction rs with
  | nil => simp [inRanges] at h
  | cons r rest ih =>
    obtain ⟨lo, hi⟩ := r
    by_cases h1 : c < lo
    · simp [inRanges, h1] at h
    · by_cases h2 : c ≤ hi
      · exact ⟨(lo, hi), by simp, by omega, h2⟩
      · obtain ⟨r, hr, hc⟩ := ih (by simpa [inRanges, h1, h2] using h)
        exact ⟨r, by simp [hr], hc⟩

end CoverageDiff.Text
