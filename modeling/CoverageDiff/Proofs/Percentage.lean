import CoverageDiff.Proofs.DecimalText
import CoverageDiff.Proofs.Grammar

/-!
# CoverageDiff.Proofs.Percentage

What becomes of a jump that has a percentage for counts.

A percentage is a decimal number with blanks around it and percent signs behind
it (`WritesPercent`).  It is rounded to a binary number and loses its fractional
part, so what decides is where its exact value lies to the midpoints below one
and below a hundred (`percentOf?_of_writesPercent`).  The outcomes are those
that the percentage stands for, except close below a hundred, anywhere between
zero and one, and where it is too large for a binary number
(`addCondition?_of_percentage`).
-/

namespace CoverageDiff

open Text Decimal

namespace Cobertura

open Markup Binary64

/-! ## Texts of percentages -/

/-- A decimal number with blanks around it, or with percent signs behind it. -/
inductive WritesPercent : List Char → ℚ → Prop
  | bare {before cs after : List Char} {p : ℚ} (blank : ∀ c ∈ before, isBlank c = true)
      (number : WritesDecimal cs p) (blank' : ∀ c ∈ after, isBlank c = true) :
      WritesPercent (before ++ (cs ++ after)) p
  | marked {before cs gap marks after : List Char} {p : ℚ} (blank : ∀ c ∈ before, isBlank c = true)
      (number : WritesDecimal cs p) (blankGap : ∀ c ∈ gap, isNumberBlank c = true)
      (percent : ∀ c ∈ marks, c = '%') (nonempty : marks ≠ [])
      (blank' : ∀ c ∈ after, isBlank c = true) :
      WritesPercent (before ++ (cs ++ gap ++ marks ++ after)) p

/-- A percent sign is no character of a number. -/
theorem ne_percent_of_isNumberChar {c : Char} (h : IsNumberChar c) : c ≠ '%' := by
  rcases h with ⟨d, hd⟩ | hmem
  · exact ne_of_digitValue? hd (by decide)
  · rintro rfl
    exact absurd hmem (by decide)

theorem ne_percent_of_isNumberBlank {c : Char} (h : isNumberBlank c = true) : c ≠ '%' := by
  rintro rfl
  exact absurd h (by decide)

/-- The number of a percentage is what is read, perhaps with blanks behind it. -/
theorem percentText_of_writesPercent {raw : String} {p : ℚ} (h : WritesPercent raw.toList p) :
    ∃ cs gap, percentText raw = cs ++ gap ∧ WritesDecimal cs p ∧
      ∀ c ∈ gap, isNumberBlank c = true := by
  rw [percentText]
  generalize raw.toList = text at h
  cases h with
  | @bare before cs after p blank number blank' =>
      have hplain : ∀ c ∈ cs, isBlank c = false := fun c hc =>
        (number.isNumberChar c hc).isBlank_eq_false
      have htrim : trim (before ++ (cs ++ after)) = cs :=
        dropAround_eq number.ne_nil blank blank' (fun c hc => hplain c (List.mem_of_mem_head? hc))
          fun c hc => hplain c (List.mem_of_mem_getLast? hc)
      have hsigns : dropRightWhile (· == '%') (cs ++ []) = cs := by
        refine dropRightWhile_append number.ne_nil (List.forall_mem_nil _) fun c hc => ?_
        exact beq_eq_false_iff_ne.mpr
          (ne_percent_of_isNumberChar (number.isNumberChar c (List.mem_of_mem_getLast? hc)))
      rw [List.append_nil] at hsigns
      exact ⟨cs, [], by rw [htrim, hsigns, List.append_nil], number, List.forall_mem_nil _⟩
  | @marked before cs gap marks after p blank number hgap hmarks hne blank' =>
      have hfirst : ∀ c ∈ (cs ++ gap ++ marks).head?, isBlank c = false := by
        intro c hc
        obtain ⟨c', more, rfl⟩ := List.exists_cons_of_ne_nil number.ne_nil
        cases hc
        exact (number.isNumberChar _ List.mem_cons_self).isBlank_eq_false
      have hlast : ∀ c ∈ (cs ++ gap ++ marks).getLast?, isBlank c = false := by
        intro c hc
        rw [List.getLast?_append_of_ne_nil _ hne] at hc
        rw [hmarks c (List.mem_of_mem_getLast? hc)]
        decide
      have htrim : trim (before ++ (cs ++ gap ++ marks ++ after)) = cs ++ gap ++ marks :=
        dropAround_eq (by simp [hne]) blank blank' hfirst hlast
      have hnumber : dropRightWhile (· == '%') (cs ++ gap ++ marks) = cs ++ gap := by
        refine dropRightWhile_append (by simp [number.ne_nil]) ?_ fun c hc => ?_
        · exact fun c hc => beq_iff_eq.mpr (hmarks c hc)
        · rw [beq_eq_false_iff_ne]
          cases List.mem_append.mp (List.mem_of_mem_getLast? hc) with
          | inl hcs => exact ne_percent_of_isNumberChar (number.isNumberChar c hcs)
          | inr hblank => exact ne_percent_of_isNumberBlank (hgap c hblank)
      exact ⟨cs, gap, by rw [htrim, hnumber], number, hgap⟩

/-! ## Whole parts of percentages -/

/-- **Percentages**: one that is too large is refused.  The whole part of any other is at least a
hundred from the midpoint below a hundred on, and positive from the midpoint below one on. -/
theorem percentOf?_of_writesPercent {raw : String} {p : ℚ} (h : WritesPercent raw.toList p) :
    (limit ≤ |p| → percentOf? raw = .error .infiniteCoverage) ∧
      (|p| < limit → ∃ value, percentOf? raw = .ok (some value) ∧
        (100 ≤ value ↔ 100 - 1 / 2 ^ 47 ≤ p) ∧ (value ≤ 0 ↔ p < 1 - 1 / 2 ^ 54)) := by
  obtain ⟨cs, gap, htext, hnumber, hgap⟩ := percentText_of_writesPercent h
  obtain ⟨negative, mantissa, exponent, hread, hp⟩ :=
    read?_of_writesDecimal hnumber (List.forall_mem_nil _) hgap
  rw [List.nil_append, ← htext] at hread
  obtain ⟨hinfinite, hfinite⟩ := truncate_ofDecimal negative mantissa exponent
  have hmagnitude : 0 ≤ decimalMagnitude mantissa exponent := by
    rw [decimalMagnitude]
    positivity
  have habs : |p| = decimalMagnitude mantissa exponent := by
    rw [hp]
    cases negative <;> simp [abs_of_nonneg hmagnitude]
  rw [habs]
  constructor
  · intro hlimit
    simp only [percentOf?, hread, hinfinite hlimit]
  · intro hlimit
    obtain ⟨whole, htruncate, hhundred, hone⟩ := hfinite hlimit
    refine ⟨signed negative whole, by simp only [percentOf?, hread, htruncate], ?_⟩
    cases negative with
    | false =>
        have hvalue : signed false whole = whole := rfl
        have hpos : p = decimalMagnitude mantissa exponent := by simpa using hp
        rw [hvalue, hpos, ← hhundred, ← not_le, ← hone]
        omega
    | true =>
        have hvalue : signed true whole ≤ 0 := by simp [signed]
        have hneg : p ≤ 0 := by simpa [hp] using hmagnitude
        have hbelow : p < 1 - 1 / 2 ^ 54 := hneg.trans_lt (by norm_num)
        have hfar : p < 100 - 1 / 2 ^ 47 := hneg.trans_lt (by norm_num)
        exact ⟨iff_of_false (by omega) (not_le.mpr hfar), iff_of_true hvalue hbelow⟩

/-! ## Jumps with percentages -/

/-- The outcomes that a percentage stands for: both from a hundred on, none up to zero, and the
first only in between. -/
def outcomeOf (p : ℚ) : Bool × Bool :=
  if 100 ≤ p then (true, true) else if p ≤ 0 then (false, false) else (true, false)

/-- The outcomes that are read of a percentage. -/
def outcomeRead (p : ℚ) : Bool × Bool :=
  if 100 - 1 / 2 ^ 47 ≤ p then (true, true)
  else if p < 1 - 1 / 2 ^ 54 then (false, false)
  else (true, false)

/-- What is read differs between zero and one, and close below a hundred. -/
theorem outcomeRead_eq_iff {p : ℚ} :
    outcomeRead p = outcomeOf p ↔
      ¬(0 < p ∧ p < 1 - 1 / 2 ^ 54) ∧ ¬(100 - 1 / 2 ^ 47 ≤ p ∧ p < 100) := by
  have hzero : (0 : ℚ) < 1 - 1 / 2 ^ 54 := by norm_num
  have hone : (1 : ℚ) - 1 / 2 ^ 54 < 100 - 1 / 2 ^ 47 := by norm_num
  have hhundred : (100 : ℚ) - 1 / 2 ^ 47 < 100 := by norm_num
  rw [outcomeRead, outcomeOf]
  generalize (1 : ℚ) - 1 / 2 ^ 54 = low at *
  generalize (100 : ℚ) - 1 / 2 ^ 47 = high at *
  by_cases hhigh : high ≤ p
  · have hlow : ¬p < low := by linarith
    have hpos : ¬p ≤ 0 := by linarith
    by_cases hfull : 100 ≤ p
    · simp [hhigh, hlow, hfull, not_lt.mpr hfull]
    · simp [hhigh, hpos, hfull, not_le.mp hfull]
  · have hfull : ¬100 ≤ p := by linarith
    by_cases hlow : p < low
    · by_cases hpos : p ≤ 0
      · simp [hhigh, hlow, hfull, hpos, not_lt.mpr hpos]
      · simp [hhigh, hlow, hfull, hpos, not_le.mp hpos]
    · have hpos : ¬p ≤ 0 := by linarith
      simp [hhigh, hlow, hfull, hpos]

/-- The condition puts a jump on the line that has these outcomes. -/
def PutsOutcome (l : Line) (n : Node) (index : Int) (outcome : Bool × Bool) : Prop :=
  ∃ j : Jump, addCondition? l n = .ok (l.setJump j) ∧ j.index = index ∧ j.outcome = outcome

/-- A condition is a jump without counts for its outcomes, but with a percentage. -/
structure PercentJump (n : Node) (index : Int) (p : ℚ) : Prop where
  kind : OfKind n "jump"
  number : GivesNumber n "number" index
  nonneg : 0 ≤ index
  unnamed : ¬NamesOutcome n
  percentage : ∃ raw, n.attribute? "coverage" = some raw ∧ WritesPercent raw.toList p

section Jumps

variable {l : Line} {n : Node} {index : Int} {p : ℚ}

/-- A condition puts one jump on a line. -/
theorem PutsOutcome.unique {outcome outcome' : Bool × Bool} (h : PutsOutcome l n index outcome)
    (h' : PutsOutcome l n index outcome') : outcome = outcome' := by
  obtain ⟨j, hadd, hindex, rfl⟩ := h
  obtain ⟨j', hadd', hindex', rfl⟩ := h'
  have hput : l.setJump j = l.setJump j' := Except.ok.inj (hadd.symm.trans hadd')
  have hfound : ∀ x : Jump, x.index = index → (l.setJump x).jump? index = some x := by
    intro x hx
    rw [Line.jump?, Line.setJump, Shelf.find?_put]
    exact if_pos hx
  have hsame := hfound j hindex
  rw [hput, hfound j' hindex', Option.some_inj] at hsame
  rw [hsame]

theorem outcome_jumpOfPercent {value : Int} (hhundred : 100 ≤ value ↔ 100 - 1 / 2 ^ 47 ≤ p)
    (hzero : value ≤ 0 ↔ p < 1 - 1 / 2 ^ 54) :
    (jumpOfPercent index value).outcome = outcomeRead p := by
  simp only [jumpOfPercent, outcomeRead, ← hhundred, ← hzero]
  split
  · rfl
  · split <;> rfl

theorem addCondition?_of_percentJump (h : PercentJump n index p) (l : Line) :
    ∃ raw, WritesPercent raw.toList p ∧ addCondition? l n =
      ((percentOf? raw).bind fun value => match value with
        | some value => .ok (jumpOfPercent index value)
        | none => .error (.noCounts index l.number)).map l.setJump := by
  obtain ⟨raw, hraw, hp⟩ := h.percentage
  have hcount : count? n "number" = .ok index := count?_eq_ok_iff.mpr ⟨h.number, h.nonneg⟩
  have hcounts : ¬hasCounts n = true := mt hasCounts_iff.mp h.unnamed
  refine ⟨raw, hp, ?_⟩
  rw [addCondition?, if_pos (ofKind_iff.mp h.kind), jump?, hcount]
  simp only [bind, Except.bind, hcounts, percent?, hraw, Option.getD_some, Bool.false_eq_true,
    if_false]
  cases percentOf? raw with
  | error e => rfl
  | ok value => cases value <;> rfl

/-- **Jumps with percentages**: a percentage that is too large for a binary number is refused, and
any other gives the outcomes that are read of it.  These are the outcomes that the percentage stands
for exactly if it is not between zero and one and not close below a hundred, where one and a hundred
are reached from the midpoints below them on. -/
theorem addCondition?_of_percentage (l : Line) (h : PercentJump n index p) :
    (limit ≤ |p| → addCondition? l n = .error .infiniteCoverage) ∧
      (|p| < limit → PutsOutcome l n index (outcomeRead p)) ∧
      (PutsOutcome l n index (outcomeOf p) ↔
        |p| < limit ∧ ¬(0 < p ∧ p < 1 - 1 / 2 ^ 54) ∧ ¬(100 - 1 / 2 ^ 47 ≤ p ∧ p < 100)) := by
  obtain ⟨raw, hraw, hadd⟩ := addCondition?_of_percentJump h l
  obtain ⟨hlarge, hsmall⟩ := percentOf?_of_writesPercent hraw
  have hrefused : limit ≤ |p| → addCondition? l n = .error .infiniteCoverage := by
    intro hlimit
    rw [hadd, hlarge hlimit]
    rfl
  have hputs : |p| < limit → PutsOutcome l n index (outcomeRead p) := by
    intro hlimit
    obtain ⟨value, hvalue, hhundred, hzero⟩ := hsmall hlimit
    refine ⟨jumpOfPercent index value, ?_, index_jumpOfPercent index value,
      outcome_jumpOfPercent hhundred hzero⟩
    rw [hadd, hvalue]
    rfl
  refine ⟨hrefused, hputs, ?_⟩
  constructor
  · intro hof
    have hlimit : |p| < limit := by
      by_contra hnot
      obtain ⟨j, hj, _⟩ := hof
      rw [hrefused (not_lt.mp hnot)] at hj
      cases hj
    exact ⟨hlimit, outcomeRead_eq_iff.mp ((hputs hlimit).unique hof)⟩
  · rintro ⟨hlimit, hclose⟩
    rw [← outcomeRead_eq_iff.mpr hclose]
    exact hputs hlimit

end Jumps

end Cobertura

/-! ## Samples -/

namespace Sample

open Markup Cobertura

/-- A jump with a percentage. -/
def jumpWith (coverage : String) : Node :=
  .element "condition" [("number", "0"), ("type", "jump"), ("coverage", coverage)] []

theorem percentJump_jumpWith {coverage : String} {p : ℚ} (h : WritesPercent coverage.toList p) :
    PercentJump (jumpWith coverage) 0 p where
  kind := by
    have hnamed := OfKind.named (n := jumpWith coverage) rfl (by decide : "jump" ≠ "")
    have hjump : String.ofList (Text.lower (Text.trim "jump".toList)) = "jump" := by decide +kernel
    rwa [hjump] at hnamed
  number := ⟨"0", rfl, by decide +kernel⟩
  nonneg := le_rfl
  unnamed := by rintro (h | h) <;> exact h rfl
  percentage := ⟨coverage, rfl, h⟩

/-- A number that is written with an exponent. -/
theorem writesDecimal_995 : WritesDecimal "995e-1".toList (199 / 2) := by
  have hdigits : WritesDigits ['9', '9', '5'] [9, 9, 5] :=
    .next (by decide) (.next (by decide) (.one (by decide)))
  have hone : WritesDigits ['1'] [1] := .one (by decide)
  have hvalue : valueOf false [9, 9, 5] [] (-1) = 199 / 2 := by norm_num [valueOf, ofDigits]
  rw [← hvalue]
  exact .intro .missing (.digits hdigits) .missing (.inl (by decide)) (.power (.inl rfl) .minus hone)

/-- Between one and a hundred the first outcome is taken. -/
theorem outcome_995 :
    PercentJump (jumpWith " 995e-1 %") 0 (199 / 2) ∧
      PutsOutcome { number := 4, hits := 2 } (jumpWith " 995e-1 %") 0 (true, false) := by
  have hwrites : WritesPercent ([' '] ++ ("995e-1".toList ++ [' '] ++ ['%'] ++ [])) (199 / 2) :=
    .marked (List.forall_mem_singleton.mpr rfl) writesDecimal_995
      (List.forall_mem_singleton.mpr rfl) (List.forall_mem_singleton.mpr rfl)
      (List.cons_ne_nil _ _) (List.forall_mem_nil _)
  have hjump : PercentJump (jumpWith " 995e-1 %") 0 (199 / 2) := percentJump_jumpWith hwrites
  have hlimit : |(199 / 2 : ℚ)| < Binary64.limit := by
    have hone : (1 : ℚ) ≤ 2 ^ (970 : ℤ) := one_le_zpow₀ one_le_two (by norm_num)
    calc |(199 / 2 : ℚ)| < 2 ^ 54 - 1 := by norm_num
      _ ≤ Binary64.limit := le_mul_of_one_le_right (by norm_num) hone
  have hread : outcomeRead (199 / 2) = (true, false) := by
    rw [outcomeRead]
    norm_num
  obtain ⟨-, hputs, -⟩ := addCondition?_of_percentage { number := 4, hits := 2 } hjump
  exact ⟨hjump, hread ▸ hputs hlimit⟩

/-- Half a percent stands for the first outcome, but none is read. -/
theorem half_percent_lost :
    PercentJump (jumpWith "0.5%") 0 (1 / 2) ∧ outcomeOf (1 / 2) = (true, false) ∧
      addCondition? { number := 4, hits := 2 } (jumpWith "0.5%") =
        .ok (Line.setJump { number := 4, hits := 2 } ⟨0, 0, 0⟩) ∧
      ¬PutsOutcome { number := 4, hits := 2 } (jumpWith "0.5%") 0 (outcomeOf (1 / 2)) := by
  have hnumber : WritesDecimal "0.5".toList (1 / 2) := by
    have hzero : WritesDigits ['0'] [0] := .one (by decide)
    have hfive : WritesDigits ['5'] [5] := .one (by decide)
    have hvalue : valueOf false [0] [5] 0 = 1 / 2 := by norm_num [valueOf, ofDigits]
    rw [← hvalue]
    exact .intro .missing (.digits hzero) (.point (.digits hfive)) (.inl (by decide)) .missing
  have hwrites : WritesPercent ([] ++ ("0.5".toList ++ [] ++ ['%'] ++ [])) (1 / 2) :=
    .marked (List.forall_mem_nil _) hnumber (List.forall_mem_nil _)
      (List.forall_mem_singleton.mpr rfl) (List.cons_ne_nil _ _) (List.forall_mem_nil _)
  have hof : outcomeOf (1 / 2) = (true, false) := by
    rw [outcomeOf]
    norm_num
  have hadd : addCondition? { number := 4, hits := 2 } (jumpWith "0.5%") =
      .ok (Line.setJump { number := 4, hits := 2 } ⟨0, 0, 0⟩) := by decide +kernel
  refine ⟨percentJump_jumpWith hwrites, hof, hadd, ?_⟩
  intro hputs
  have hnone : PutsOutcome { number := 4, hits := 2 } (jumpWith "0.5%") 0 (false, false) :=
    ⟨⟨0, 0, 0⟩, hadd, rfl, rfl⟩
  rw [hof] at hputs
  exact absurd (hputs.unique hnone) (by decide)

end Sample

end CoverageDiff
