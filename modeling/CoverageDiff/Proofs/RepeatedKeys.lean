import CoverageDiff.Proofs.Coverage
import CoverageDiff.Proofs.Overwriting

/-!
# CoverageDiff.Proofs.RepeatedKeys

What merging does to switches that list a key more than once.  Nothing keeps
such a switch from being made, so the two sides of a merge have to be looked at
one by one.

1. Of the second side every count is added, however often its key is listed
   (`Switch.caseTotal_merge`, `Switch.covers_merge_iff`).
2. The first side is put in order before that, and of a key that is listed
   again the last count stays (`Shelf.ofList_cons_of_mem`).

So merging keeps all coverage and the sum of all counts exactly if the first
side has no count before another one of the same key
(`Switch.keepsCoverage_merge_iff`).
-/

namespace CoverageDiff

open CoverageDiff.Shelf

/-! ## Sums of counts -/

namespace Switch

/-- The sum of the counts of some cases. -/
def caseTotal (cs : List (Int × Int)) : Int :=
  total (cs.map Prod.snd)

@[simp] theorem caseTotal_nil : caseTotal [] = 0 := rfl

@[simp] theorem caseTotal_cons (c : Int × Int) (cs : List (Int × Int)) :
    caseTotal (c :: cs) = c.2 + caseTotal cs := rfl

/-- A count is added, whether its key is there or not. -/
theorem caseTotal_putWith (c : Int × Int) (cs : List (Int × Int)) :
    caseTotal (putWith addCase c cs) = caseTotal cs + c.2 := by
  induction cs with
  | nil => simp [putWith]
  | cons d ds ih =>
      unfold putWith
      split
      · simp only [caseTotal_cons]
        omega
      · split
        · simp only [caseTotal_cons, addCase]
          omega
        · simp only [caseTotal_cons, ih]
          omega

theorem caseTotal_merge (cs ds : List (Int × Int)) :
    caseTotal (Shelf.merge addCase cs ds) = caseTotal cs + caseTotal ds := by
  induction ds generalizing cs with
  | nil => simp
  | cons d ds ih =>
      have hstep : Shelf.merge addCase cs (d :: ds) =
          Shelf.merge addCase (putWith addCase d cs) ds := rfl
      rw [hstep, ih, caseTotal_putWith, caseTotal_cons]
      omega

/-- A case whose key does not come again adds its count to the filed ones. -/
theorem caseTotal_put_of_notMem {c : Int × Int} {cs : List (Int × Int)}
    (h : c.1 ∉ Shelf.keys cs) : caseTotal (put c cs) = c.2 + caseTotal cs := by
  induction cs with
  | nil => rfl
  | cons d ds ih =>
      rw [Shelf.keys_cons, List.mem_cons, not_or] at h
      have hrest := ih h.2
      rw [put] at hrest ⊢
      unfold putWith
      split
      · rfl
      · have hne : key c ≠ key d := h.1
        rw [if_neg hne, caseTotal_cons, caseTotal_cons, hrest]
        omega

/-! ## Covered keys -/

/-- No case has a negative count. -/
def NonnegCases (cs : List (Int × Int)) : Prop :=
  ∀ c ∈ cs, 0 ≤ c.2

theorem not_covers_nil (k : Int) : ¬Covers [] k := by
  rintro ⟨_, hmem, _⟩
  exact absurd hmem List.not_mem_nil

theorem covers_cons_iff {c : Int × Int} {cs : List (Int × Int)} {k : Int} :
    Covers (c :: cs) k ↔ c.1 = k ∧ 0 < c.2 ∨ Covers cs k := by
  simp only [Covers, List.mem_cons, or_and_right, exists_or]
  apply or_congr_left
  constructor
  · rintro ⟨n, rfl, hpos⟩
    exact ⟨rfl, hpos⟩
  · rintro ⟨rfl, hpos⟩
    exact ⟨c.2, rfl, hpos⟩

theorem NonnegCases.putWith {c : Int × Int} {cs : List (Int × Int)} (hcs : NonnegCases cs)
    (hc : 0 ≤ c.2) : NonnegCases (putWith addCase c cs) :=
  forall_mem_putWith hcs hc fun d hd _ => Int.add_nonneg (hcs d hd) hc

/-- A key is covered after a case is added exactly if it was, or the case covers it. -/
theorem covers_putWith_iff {c : Int × Int} {cs : List (Int × Int)} (hcs : NonnegCases cs)
    (hc : 0 ≤ c.2) {k : Int} :
    Covers (putWith addCase c cs) k ↔ Covers cs k ∨ c.1 = k ∧ 0 < c.2 := by
  induction cs with
  | nil => rw [Shelf.putWith, covers_cons_iff, or_comm]
  | cons d ds ih =>
      obtain ⟨hd, hds⟩ := List.forall_mem_cons.mp hcs
      unfold Shelf.putWith
      split
      · rw [covers_cons_iff, or_comm]
      · split
        · next heq =>
            -- the counts of one key are added, and neither is negative
            have hkey : c.1 = d.1 := heq
            have hsum : 0 < d.2 + c.2 ↔ 0 < d.2 ∨ 0 < c.2 := by omega
            rw [covers_cons_iff, covers_cons_iff, hkey]
            simp only [addCase, hsum, and_or_left]
            rw [or_right_comm]
        · rw [covers_cons_iff, covers_cons_iff, ih hds, or_assoc]

theorem covers_merge_iff {cs ds : List (Int × Int)} (hcs : NonnegCases cs) (hds : NonnegCases ds)
    {k : Int} : Covers (Shelf.merge addCase cs ds) k ↔ Covers cs k ∨ Covers ds k := by
  induction ds generalizing cs with
  | nil => simp [not_covers_nil]
  | cons d ds ih =>
      obtain ⟨hd, hrest⟩ := List.forall_mem_cons.mp hds
      have hstep : Shelf.merge addCase cs (d :: ds) =
          Shelf.merge addCase (Shelf.putWith addCase d cs) ds := rfl
      rw [hstep, ih (hcs.putWith hd) hrest, covers_putWith_iff hcs hd, covers_cons_iff, or_assoc]

/-! ## Cases before another one of the same key -/

/-- No case has a count before another case of the same key. -/
def CountsLast : List (Int × Int) → Prop
  | [] => True
  | c :: cs => (c.1 ∈ Shelf.keys cs → c.2 = 0) ∧ CountsLast cs

instance CountsLast.decidable : (cs : List (Int × Int)) → Decidable (CountsLast cs)
  | [] => .isTrue trivial
  | c :: cs =>
    have := CountsLast.decidable cs
    inferInstanceAs (Decidable ((c.1 ∈ Shelf.keys cs → c.2 = 0) ∧ CountsLast cs))

/-- Filing loses counts, unless none comes before another one of the same key. -/
theorem caseTotal_ofList {cs : List (Int × Int)} (hcs : NonnegCases cs) :
    caseTotal (ofList cs) ≤ caseTotal cs ∧
      (caseTotal (ofList cs) = caseTotal cs ↔ CountsLast cs) := by
  induction cs with
  | nil => exact ⟨Int.le_refl _, iff_of_true rfl trivial⟩
  | cons c cs ih =>
      obtain ⟨hc, hrest⟩ := List.forall_mem_cons.mp hcs
      obtain ⟨hle, heq⟩ := ih hrest
      rw [caseTotal_cons, CountsLast, ← heq]
      by_cases hmem : c.1 ∈ Shelf.keys cs
      · rw [ofList_cons_of_mem hmem]
        refine ⟨by omega, ?_⟩
        constructor
        · intro h
          exact ⟨fun _ => by omega, by omega⟩
        · rintro ⟨hzero, hsame⟩
          have := hzero hmem
          omega
      · have hfiled : c.1 ∉ Shelf.keys (ofList cs) := fun h => hmem (mem_keys_ofList.mp h)
        rw [ofList_cons_of_notMem hmem, caseTotal_put_of_notMem hfiled]
        refine ⟨by omega, ?_⟩
        constructor
        · intro h
          exact ⟨fun hc => absurd hc hmem, by omega⟩
        · rintro ⟨_, hsame⟩
          omega

/-- A case with a count that is not before another one of its key stays when it is filed. -/
theorem CountsLast.mem_ofList {cs : List (Int × Int)} (h : CountsLast cs) {c : Int × Int}
    (hc : c ∈ cs) (hne : c.2 ≠ 0) : c ∈ ofList cs := by
  rw [mem_ofList_iff]
  induction cs with
  | nil => exact absurd hc List.not_mem_nil
  | cons d ds ih =>
      obtain ⟨hd, hds⟩ := h
      rw [isLast_cons_iff]
      rcases List.mem_cons.mp hc with rfl | hrest
      · exact .inl ⟨rfl, fun hmem => hne (hd hmem)⟩
      · exact .inr (ih hds hrest)

theorem CountsLast.covers_ofList_iff {cs : List (Int × Int)} (h : CountsLast cs) {k : Int} :
    Covers (ofList cs) k ↔ Covers cs k := by
  constructor
  · rintro ⟨n, hmem, hpos⟩
    exact ⟨n, mem_of_mem_ofList hmem, hpos⟩
  · rintro ⟨n, hmem, hpos⟩
    exact ⟨n, h.mem_ofList hmem (ne_of_gt hpos), hpos⟩

/-! ## Switches -/

variable {a b s : Switch}

theorem Nonneg.pairs (h : s.Nonneg) : NonnegCases s.pairs :=
  fun c hc => h.hits c.2 (List.of_mem_zip hc).2

theorem Nonneg.cases (h : s.Nonneg) : NonnegCases s.cases :=
  fun c hc => h.pairs c (mem_of_mem_ofList hc)

/-- The counts of all cases are those of the keys and that of the default case. -/
theorem total_caseHits (h : s.Even) : total s.caseHits = caseTotal s.pairs + s.defaultHits := by
  have hhits : s.pairs.map Prod.snd = s.hits := List.map_snd_zip (Nat.le_of_eq h.symm)
  have happend : total (s.hits ++ [s.defaultHits]) = total s.hits + total [s.defaultHits] :=
    List.sum_append
  rw [caseHits, happend, caseTotal, hhits]
  simp [total]

/-- A merged switch covers the keys that the first covers when its cases are put in order, and
those that the second covers. -/
theorem mem_covered_merge_iff (ha : a.Nonneg) (hb : b.Nonneg) {label : String} :
    label ∈ (a.merge b).covered ↔
      (∃ k, (Covers a.cases k ∨ Covers b.pairs k) ∧ label = toString k) ∨
        label = defaultLabel ∧ (0 < a.defaultHits ∨ 0 < b.defaultHits) := by
  have hdefault : 0 < (a.merge b).defaultHits ↔ 0 < a.defaultHits ∨ 0 < b.defaultHits := by
    have had := ha.defaultHits
    have hbd := hb.defaultHits
    have hsum : (a.merge b).defaultHits = a.defaultHits + b.defaultHits := rfl
    omega
  simp only [mem_covered_iff_covers (a.even_merge b), pairs_merge, hdefault,
    covers_merge_iff ha.cases hb.pairs]

/-- A switch covers what two switches cover, and its counts are those of both. -/
structure KeepsCoverage (a b c : Switch) : Prop where
  coveredCases : ∀ label,
    label ∈ c.coveredCases ↔ label ∈ a.coveredCases ∨ label ∈ b.coveredCases
  caseHits : total c.caseHits = total a.caseHits + total b.caseHits

/-- **Repeated keys**: of two switches without negative counts the merged one keeps all coverage and
the sum of all counts exactly if the first has no count before another one of the same key.  What
keys the second lists makes no difference. -/
theorem keepsCoverage_merge_iff (hae : a.Even) (hbe : b.Even) (ha : a.Nonneg) (hb : b.Nonneg) :
    KeepsCoverage a b (a.merge b) ↔ CountsLast a.pairs := by
  obtain ⟨_, hfiled⟩ := caseTotal_ofList ha.pairs
  have htotal : total (a.merge b).caseHits = total a.caseHits + total b.caseHits ↔
      CountsLast a.pairs := by
    have hsum : (a.merge b).defaultHits = a.defaultHits + b.defaultHits := rfl
    have hcases : a.cases = ofList a.pairs := rfl
    rw [total_caseHits (a.even_merge b), total_caseHits hae, total_caseHits hbe, pairs_merge,
      caseTotal_merge, hsum, hcases, ← hfiled]
    omega
  constructor
  · intro h
    exact htotal.mp h.caseHits
  · intro h
    refine ⟨?_, htotal.mpr h⟩
    intro label
    have hcovers : ∀ k, Covers a.cases k ↔ Covers a.pairs k := fun _ => h.covers_ofList_iff
    rw [(lists_coveredCases _).mem_iff, (lists_coveredCases a).mem_iff,
      (lists_coveredCases b).mem_iff, mem_covered_merge_iff ha hb, mem_covered_iff_covers hae,
      mem_covered_iff_covers hbe]
    simp only [hcovers, or_and_right, exists_or, and_or_left]
    exact or_or_or_comm

end Switch

/-! ## Samples -/

namespace Sample

/-- A switch that lists a key again, without a count. -/
def repeating : Switch := ⟨0, [7, 7], [1, 0], 0⟩

/-- A switch that lists a key without a count, and then again. -/
def countedLast : Switch := ⟨0, [7, 7], [0, 1], 0⟩

/-- A switch without keys. -/
def keyless : Switch := ⟨0, [], [], 0⟩

/-- Merging even a switch without keys into it loses its only covered case. -/
theorem coverage_of_repeating :
    Switch.make? 0 [7, 7] [1, 0] 0 = .ok repeating ∧ Switch.make? 0 [] [] 0 = .ok keyless ∧
      repeating.Nonneg ∧ keyless.Nonneg ∧
      repeating.coveredCases = ["7"] ∧ (repeating.merge keyless).coveredCases = [] ∧
      ¬Switch.KeepsCoverage repeating keyless (repeating.merge keyless) := by
  have hcovered : repeating.coveredCases = ["7"] := by decide +kernel
  have hmerged : (repeating.merge keyless).coveredCases = [] := by decide +kernel
  refine ⟨by decide, by decide, by decide, by decide, hcovered, hmerged, ?_⟩
  intro h
  have hseven := (h.coveredCases "7").mpr (.inl (by simp [hcovered]))
  simp [hmerged] at hseven

/-- Where only the last case of a key has a count, nothing is lost, also not of the same switch
merged in. -/
theorem coverage_of_countedLast :
    Switch.make? 0 [7, 7] [0, 1] 0 = .ok countedLast ∧
      Switch.KeepsCoverage countedLast repeating (countedLast.merge repeating) ∧
      (countedLast.merge repeating).pairs = [(7, 2)] :=
  ⟨by decide,
    (Switch.keepsCoverage_merge_iff (by decide) (by decide) (by decide) (by decide)).mpr (by decide),
    by decide +kernel⟩

end Sample

end CoverageDiff
