import CoverageDiff.Proofs.Coverage

/-!
# CoverageDiff.Proofs.Growth

Merging lines takes no coverage away, where no count is negative and no
switch repeats a key.

1. A jump takes the outcomes that it takes on either side, a switch covers the
   cases that it covers on either side; a side without the branch adds nothing.
2. A line is without coverage exactly if both sides are.
3. Its status can fall all the same.  A branch or a key that one side lacks
   can be new to it and not covered, and then a line that was fully covered is
   partly covered.  Where both sides have the same branches and keys
   (`Line.SameBranches`) the status is at least that of either side
   (`Line.SameBranches.rank_le_rank_merge`).

`Line.merge_keeps_coverage` is the main statement.
-/

namespace CoverageDiff

open CoverageDiff.Shelf

/-! ## Statuses -/

/-- A status is not below another if it is none only where that is, and full wherever that is. -/
theorem Status.rank_le_rank {s t : Status} (hnone : t = .none → s = .none)
    (hfull : s = .full → t = .full) : s.rank ≤ t.rank := by
  cases s <;> cases t <;> simp_all [rank]

/-! ## Keys of switches -/

theorem Switch.mem_keys_merge_iff {a b : Switch} (ha : a.Even) (hb : b.Even) {k : Int} :
    k ∈ (a.merge b).keys ↔ k ∈ a.keys ∨ k ∈ b.keys := by
  have hcases : k ∈ Shelf.keys a.cases ↔ k ∈ a.keys := by
    rw [cases, mem_keys_ofList]
    exact iff_of_eq (congrArg (k ∈ ·) (keys_pairs ha))
  rw [← keys_pairs (a.even_merge b), pairs_merge, mem_keys_merge keepsKey_addCase, hcases,
    keys_pairs hb]

namespace Line

/-! ## Lines that operations can give -/

/-- A line of a project that operations can give. -/
def Reachable (l : Line) : Prop :=
  ∃ (p : Project) (c : String) (n : Int), p.Reachable ∧ p.line? c n = some l

/-- The lines that operations can give are the well-formed ones. -/
theorem reachable_iff_wellFormed {l : Line} : l.Reachable ↔ l.WellFormed := by
  constructor
  · rintro ⟨p, c, n, hp, hl⟩
    exact hp.wellFormed.of_line? hl
  · intro h
    have hproject : ({ classes := [{ name := "", lines := [l] }] } : Project).WellFormed := {
      ascending := List.pairwise_singleton _ _
      classes := by
        intro c hc
        rw [List.mem_singleton.mp hc]
        exact {
          ascending := List.pairwise_singleton _ _
          lines := fun m hm => List.mem_singleton.mp hm ▸ h } }
    refine ⟨_, "", l.number, Project.reachable_iff_wellFormed.mpr hproject, ?_⟩
    simp [Project.line?, Project.class?, Class.line?, find?_cons]

instance (l : Line) : Decidable l.Reachable :=
  decidable_of_iff _ reachable_iff_wellFormed.symm

instance (l : Line) : Decidable l.DistinctKeys :=
  inferInstanceAs (Decidable (∀ s ∈ l.switches, s.keys.Nodup))

/-! ## What a line covers at an index -/

/-- The outcomes that the jump at an index takes, none if there is no jump. -/
def outcomeAt (l : Line) (i : Int) : Bool × Bool :=
  ((l.jump? i).map Jump.outcome).getD (false, false)

/-- The cases that the switch at an index covers, none if there is no switch. -/
def casesAt (l : Line) (i : Int) : List String :=
  ((l.switch? i).map Switch.coveredCases).getD []

variable {l a b : Line}

theorem mem_casesAt_iff {i : Int} {label : String} :
    label ∈ l.casesAt i ↔ ∃ c, l.view.covered i = some c ∧ label ∈ c := by
  have hview : l.view.covered i = (l.switch? i).map Switch.covered := rfl
  rw [hview, casesAt]
  cases l.switch? i with
  | none => simp
  | some s => simp [s.lists_coveredCases.mem_iff]

theorem outcomeAt_merge (ha : a.Tidy) (hb : b.Tidy) (i : Int) :
    (a.merge b).outcomeAt i = Jump.joinOutcomes (a.outcomeAt i) (b.outcomeAt i) := by
  have hview : ∀ l : Line, l.outcomeAt i = (l.view.outcome i).getD (false, false) := fun _ => rfl
  rw [hview, hview, hview, outcome_view_merge ha hb]
  cases a.view.outcome i <;> cases b.view.outcome i <;> simp [Jump.joinOutcomes]

theorem mem_casesAt_merge_iff (ha : a.Tidy) (hb : b.Tidy) {i : Int} {label : String} :
    label ∈ (a.merge b).casesAt i ↔ label ∈ a.casesAt i ∨ label ∈ b.casesAt i := by
  rw [mem_casesAt_iff, mem_casesAt_iff, mem_casesAt_iff, covered_view_merge ha hb]
  cases a.view.covered i <;> cases b.view.covered i <;> simp

theorem isSome_jump?_merge_iff (ha : a.WellFormed) (hb : b.WellFormed) (i : Int) :
    ((a.merge b).jump? i).isSome ↔ (a.jump? i).isSome ∨ (b.jump? i).isSome := by
  rw [jump?_merge ha hb, isSome_optionMerge_iff]

theorem isSome_switch?_merge_iff (ha : a.WellFormed) (hb : b.WellFormed) (i : Int) :
    ((a.merge b).switch? i).isSome ↔ (a.switch? i).isSome ∨ (b.switch? i).isSome := by
  rw [switch?_merge ha hb, isSome_optionMerge_iff]

/-- A merged line has the keys of both sides. -/
theorem hasKey_merge_iff (ha : a.WellFormed) (hb : b.WellFormed) {i k : Int} :
    (a.merge b).HasKey i k ↔ a.HasKey i k ∨ b.HasKey i k := by
  unfold HasKey
  rw [switch?_merge ha hb]
  cases hs : a.switch? i with
  | none => simp
  | some s =>
      cases ht : b.switch? i with
      | none => simp
      | some t =>
          have hkeys := Switch.mem_keys_merge_iff (ha.even s (mem_of_find? hs))
            (hb.even t (mem_of_find? ht)) (k := k)
          simpa using hkeys

/-! ## The same branches -/

/-- Both lines have the same jumps and switches, by index, and these the same keys. -/
structure SameBranches (a b : Line) : Prop where
  jumps : ∀ i, (a.jump? i).isSome = (b.jump? i).isSome
  switches : ∀ i, (a.switch? i).isSome = (b.switch? i).isSome
  keys : ∀ i k, a.HasKey i k ↔ b.HasKey i k

/-- What is merged of two sides that both hold something comes from both. -/
private theorem exists_of_optionMerge {α : Type} {join : α → α → α} {x y : Option α} {z : α}
    (h : Option.merge join x y = some z) (hxy : x.isSome = y.isSome) :
    ∃ p q, x = some p ∧ y = some q ∧ join p q = z := by
  cases x <;> cases y <;> simp_all

namespace SameBranches

theorem exists_outcomes (h : a.SameBranches b) (ha : a.Tidy) (hb : b.Tidy) {i : Int}
    {o : Bool × Bool} (ho : (a.merge b).view.outcome i = some o) :
    ∃ p q, a.view.outcome i = some p ∧ b.view.outcome i = some q ∧ Jump.joinOutcomes p q = o := by
  rw [outcome_view_merge ha hb] at ho
  refine exists_of_optionMerge ho ?_
  simpa only [view, Option.isSome_map] using h.jumps i

theorem exists_covered (h : a.SameBranches b) (ha : a.Tidy) (hb : b.Tidy) {i : Int}
    {c : Set String} (hc : (a.merge b).view.covered i = some c) :
    ∃ p q, a.view.covered i = some p ∧ b.view.covered i = some q ∧ p ∪ q = c := by
  rw [covered_view_merge ha hb] at hc
  refine exists_of_optionMerge hc ?_
  simpa only [view, Option.isSome_map] using h.switches i

/-- With the same branches a sum is fully covered if one of its parts is. -/
theorem allCovered_merge (h : a.SameBranches b) (ha : a.Tidy) (hb : b.Tidy)
    (hall : a.allCovered = true ∨ b.allCovered = true) : (a.merge b).allCovered = true := by
  rw [allCovered_iff ha.toRegular, allCovered_iff hb.toRegular] at hall
  rw [allCovered_iff (ha.merge hb).toRegular]
  refine ⟨?_, ?_, ?_⟩
  · intro i o ho
    obtain ⟨p, q, hp, hq, rfl⟩ := h.exists_outcomes ha hb ho
    rcases hall with ⟨houtcome, _, _⟩ | ⟨houtcome, _, _⟩
    · simp [houtcome i p hp, Jump.joinOutcomes]
    · simp [houtcome i q hq, Jump.joinOutcomes]
  · intro i c hc
    obtain ⟨p, q, hp, hq, rfl⟩ := h.exists_covered ha hb hc
    rcases hall with ⟨_, hdefault, _⟩ | ⟨_, hdefault, _⟩
    · exact .inl (hdefault i p hp)
    · exact .inr (hdefault i q hq)
  · intro i c k hc hk
    obtain ⟨p, q, hp, hq, rfl⟩ := h.exists_covered ha hb hc
    rw [hasKey_merge_iff ha.toWellFormed hb.toWellFormed] at hk
    rcases hall with ⟨_, _, hkeys⟩ | ⟨_, _, hkeys⟩
    · have hak : a.HasKey i k := hk.elim id (h.keys i k).mpr
      exact .inl (hkeys i p k hp hak)
    · have hbk : b.HasKey i k := hk.elim (h.keys i k).mp id
      exact .inr (hkeys i q k hq hbk)

theorem status_merge_eq_full (h : a.SameBranches b) (ha : a.Tidy) (hb : b.Tidy)
    (hfull : a.status = .full ∨ b.status = .full) : (a.merge b).status = .full := by
  rw [status_eq_full_iff, status_eq_full_iff] at hfull
  rw [status_eq_full_iff]
  have hsum : (a.merge b).hits = a.hits + b.hits := rfl
  have hna := ha.nonneg.hits
  have hnb := hb.nonneg.hits
  refine ⟨by omega, h.allCovered_merge ha hb ?_⟩
  exact hfull.imp And.right And.right

/-- **Statuses**: with the same branches a sum is not below its parts. -/
theorem rank_le_rank_merge (h : a.SameBranches b) (ha : a.Tidy) (hb : b.Tidy) :
    a.status.rank ≤ (a.merge b).status.rank ∧ b.status.rank ≤ (a.merge b).status.rank := by
  have hnone := status_merge_eq_none_iff ha hb
  constructor
  · exact Status.rank_le_rank (fun hm => (hnone.mp hm).1)
      fun hfull => h.status_merge_eq_full ha hb (.inl hfull)
  · exact Status.rank_le_rank (fun hm => (hnone.mp hm).2)
      fun hfull => h.status_merge_eq_full ha hb (.inr hfull)

end SameBranches

/-! ## The main statement -/

/-- **Coverage never shrinks**: after merging, every jump takes the outcomes that one of the sides
takes and every switch covers the cases that one of them covers; the line is without coverage
exactly if both sides are, and not below either side if these have the same branches. -/
theorem merge_keeps_coverage (ha : a.Reachable) (hb : b.Reachable) (hna : a.Nonneg)
    (hnb : b.Nonneg) (hka : a.DistinctKeys) (hkb : b.DistinctKeys) :
    (∀ i, (((a.merge b).jump? i).isSome ↔ (a.jump? i).isSome ∨ (b.jump? i).isSome) ∧
      (a.merge b).outcomeAt i = Jump.joinOutcomes (a.outcomeAt i) (b.outcomeAt i)) ∧
    (∀ i, (((a.merge b).switch? i).isSome ↔ (a.switch? i).isSome ∨ (b.switch? i).isSome) ∧
      ∀ label, label ∈ (a.merge b).casesAt i ↔ label ∈ a.casesAt i ∨ label ∈ b.casesAt i) ∧
    ((a.merge b).status = .none ↔ a.status = .none ∧ b.status = .none) ∧
    (a.SameBranches b →
      a.status.rank ≤ (a.merge b).status.rank ∧ b.status.rank ≤ (a.merge b).status.rank) := by
  have hwa := reachable_iff_wellFormed.mp ha
  have hwb := reachable_iff_wellFormed.mp hb
  have hta : a.Tidy := { toWellFormed := hwa, distinctKeys := hka, nonneg := hna }
  have htb : b.Tidy := { toWellFormed := hwb, distinctKeys := hkb, nonneg := hnb }
  refine ⟨?_, ?_, status_merge_eq_none_iff hta htb, fun h => h.rank_le_rank_merge hta htb⟩
  · exact fun i => ⟨isSome_jump?_merge_iff hwa hwb i, outcomeAt_merge hta htb i⟩
  · exact fun i => ⟨isSome_switch?_merge_iff hwa hwb i, fun _ => mem_casesAt_merge_iff hta htb⟩

end Line

/-! ## Samples -/

namespace Sample

/-- A line one way of whose jump was taken, and one case of whose switch. -/
def oneWay : Line where
  number := 3
  hits := 1
  jumps := [⟨0, 1, 0⟩]
  switches := [⟨1, [7, 2], [1, 0], 0⟩]

/-- The line with the other way and the other cases taken. -/
def otherWays : Line where
  number := 3
  hits := 1
  jumps := [⟨0, 0, 1⟩]
  switches := [⟨1, [2, 7], [1, 0], 1⟩]

private theorem sameBranches_oneWay : oneWay.SameBranches otherWays where
  jumps := by
    intro i
    by_cases h : (0 : Int) = i <;>
      simp [oneWay, otherWays, Line.jump?, find?_cons, h]
  switches := by
    intro i
    by_cases h : (1 : Int) = i <;>
      simp [oneWay, otherWays, Line.switch?, find?_cons, h]
  keys := by
    intro i k
    by_cases h : (1 : Int) = i <;>
      simp [oneWay, otherWays, Line.HasKey, Line.switch?, find?_cons, h, or_comm]

/-- Two lines that are partly covered, with the same branches, and their sum that is fully
covered. -/
theorem oneWay_merge_otherWays :
    oneWay.status = .partly ∧ otherWays.status = .partly ∧
      (oneWay.merge otherWays).status = .full ∧ oneWay.SameBranches otherWays ∧
      oneWay.status.rank ≤ (oneWay.merge otherWays).status.rank ∧
      otherWays.status.rank ≤ (oneWay.merge otherWays).status.rank := by
  have hsame := sameBranches_oneWay
  have hlaw := Line.merge_keeps_coverage (a := oneWay) (b := otherWays) (by decide) (by decide)
    (by decide) (by decide) (by decide) (by decide)
  exact ⟨by decide, by decide, by decide, hsame, hlaw.2.2.2 hsame⟩

/-- A jump that one side lacks can lower the status. -/
example :
    (({ number := 3, hits := 1 } : Line).merge oneWay).status = .partly ∧
      ({ number := 3, hits := 1 } : Line).status = .full := by
  decide

end Sample

end CoverageDiff
