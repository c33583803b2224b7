import CoverageDiff.Proofs.ReportOrder

/-!
# CoverageDiff.Proofs.Equivalence

Equivalent coverage.  A comparison reads nothing but the views of its two
sides (`between_eq_of_view_eq`), and it is empty exactly where they are the
same (`isEmpty_between_iff`).  So the empty report is an equality of views:
an equivalence relation on projects, and a congruence for the comparison.
-/

namespace CoverageDiff

open CoverageDiff.Shelf

/-! ## No discrepancy -/

/-- A report is empty exactly if it has no element at any level. -/
theorem Report.isEmpty_iff_forall {r : Report} :
    r.isEmpty = true ↔ ∀ level e, e ∉ r.level level := by
  have hall : ∀ level, level ∈ Level.all := by
    intro level
    cases level <;> decide
  simp only [isEmpty, List.all_eq_true, List.isEmpty_iff, List.eq_nil_iff_forall_not_mem]
  exact ⟨fun h level => h level (hall level), fun h level _ => h level⟩

/-- Nothing is to be reported of a tree and itself. -/
theorem not_discrepancy_self (v : ProjectView) {level : Level} {e : Element} :
    ¬Discrepancy v v level e := by
  intro h
  cases h with
  | classRemoved ha hb => rw [hb] at ha; contradiction
  | classAdded ha hb => rw [ha] at hb; contradiction
  | lineRemoved _ ha hb => rw [ha] at hb; contradiction
  | lineAdded _ ha hb => rw [ha] at hb; contradiction
  | lineChanged ha hb hne =>
      rw [ha, Option.some.injEq] at hb
      exact hne (congrArg LineView.status hb)
  | jumpRemoved ha hb hja hjb =>
      rw [ha, Option.some.injEq] at hb
      rw [← hb, hja] at hjb
      contradiction
  | jumpAdded ha hb hja hjb =>
      rw [ha, Option.some.injEq] at hb
      rw [← hb, hja] at hjb
      contradiction
  | jumpChanged ha hb hja hjb hne =>
      rw [ha, Option.some.injEq] at hb
      rw [← hb, hja, Option.some.injEq] at hjb
      exact hne hjb
  | switchRemoved ha hb hsa hsb _ =>
      rw [ha, Option.some.injEq] at hb
      rw [← hb, hsa] at hsb
      contradiction
  | switchAdded ha hb hsa hsb _ =>
      rw [ha, Option.some.injEq] at hb
      rw [← hb, hsa] at hsb
      contradiction
  | switchChanged ha hb hsa hsb hne _ _ =>
      rw [ha, Option.some.injEq] at hb
      rw [← hb, hsa, Option.some.injEq] at hsb
      exact hne hsb

/-- Two sides are the same if neither lacks what the other has and what both have is the same. -/
private theorem eq_of_no_difference {β : Type} {x y : Option β}
    (hremoved : ∀ s, x = some s → y ≠ none) (hadded : ∀ t, y = some t → x ≠ none)
    (hchanged : ∀ s t, x = some s → y = some t → s = t) : x = y := by
  cases x with
  | none =>
      cases y with
      | none => rfl
      | some t => exact absurd rfl (hadded t rfl)
  | some s =>
      cases y with
      | none => exact absurd rfl (hremoved s rfl)
      | some t => exact congrArg some (hchanged s t rfl rfl)

/-- What a switch of a project covers has a listing. -/
private theorem exists_lists {p : Project} {c : String} {n i : Int} {v : LineView} {s : Set String}
    (hv : p.view.line? c n = some v) (hs : v.covered i = some s) : ∃ xs, Lists xs s := by
  obtain ⟨l, _, rfl⟩ := Project.view_line?_eq_some_iff.mp hv
  obtain ⟨t, _, rfl⟩ := Option.map_eq_some_iff.mp hs
  exact ⟨t.coveredCases, t.lists_coveredCases⟩

section Views

variable {a b : Project}

/-- Shared lines between which nothing is to be reported have one view. -/
private theorem lineView_eq {c : String} {n : Int} {va vb : LineView}
    (h : ∀ level e, ¬Discrepancy a.view b.view level e) (hva : a.view.line? c n = some va)
    (hvb : b.view.line? c n = some vb) : va = vb := by
  refine LineView.ext ?_ ?_ ?_
  · by_contra hne
    exact h _ _ (.lineChanged hva hvb hne)
  · funext i
    refine eq_of_no_difference ?_ ?_ ?_
    · exact fun s hs hnone => h _ _ (.jumpRemoved hva hvb hs hnone)
    · exact fun t ht hnone => h _ _ (.jumpAdded hva hvb hnone ht)
    · intro s t hs ht
      by_contra hne
      exact h _ _ (.jumpChanged hva hvb hs ht hne)
  · funext i
    refine eq_of_no_difference ?_ ?_ ?_
    · intro s hs hnone
      obtain ⟨xs, hxs⟩ := exists_lists hva hs
      exact h _ _ (.switchRemoved hva hvb hs hnone hxs)
    · intro t ht hnone
      obtain ⟨ys, hys⟩ := exists_lists hvb ht
      exact h _ _ (.switchAdded hva hvb hnone ht hys)
    · intro s t hs ht
      by_contra hne
      obtain ⟨xs, hxs⟩ := exists_lists hva hs
      obtain ⟨ys, hys⟩ := exists_lists hvb ht
      exact h _ _ (.switchChanged hva hvb hs ht hne hxs hys)

/-- Projects between which nothing is to be reported have one view. -/
theorem view_eq_of_forall_not_discrepancy (h : ∀ level e, ¬Discrepancy a.view b.view level e) :
    a.view = b.view := by
  funext c
  refine eq_of_no_difference ?_ ?_ ?_
  · exact fun ka hka hnone => h _ _ (.classRemoved (Option.isSome_of_eq_some hka) hnone)
  · exact fun kb hkb hnone => h _ _ (.classAdded hnone (Option.isSome_of_eq_some hkb))
  · intro ka kb hka hkb
    have hline : ∀ n, a.view.line? c n = ka n ∧ b.view.line? c n = kb n := by
      intro n
      rw [ProjectView.line?, ProjectView.line?, hka, hkb]
      exact ⟨rfl, rfl⟩
    funext n
    obtain ⟨hna, hnb⟩ := hline n
    rw [← hna, ← hnb]
    refine eq_of_no_difference ?_ ?_ ?_
    · exact fun la hla hnone => h _ _ (.lineRemoved (Option.isSome_of_eq_some hkb) hla hnone)
    · exact fun lb hlb hnone => h _ _ (.lineAdded (Option.isSome_of_eq_some hka) hnone hlb)
    · exact fun la lb hla hlb => lineView_eq h hla hlb

/-! ## Reports and views -/

/-- **Emptiness**: a comparison is empty exactly if the views of its sides are the same. -/
theorem isEmpty_between_iff (ha : a.Distinct) (hb : b.Distinct) :
    (Report.between a b).isEmpty = true ↔ a.view = b.view := by
  simp only [Report.isEmpty_iff_forall, mem_level_iff_discrepancy ha hb]
  constructor
  · exact view_eq_of_forall_not_discrepancy
  · intro hview level e
    rw [hview]
    exact not_discrepancy_self b.view

/-- **Factoring**: projects with the same views have the same report, in the same order. -/
theorem between_eq_of_view_eq {a' b' : Project} (ha : a.Distinct) (hb : b.Distinct)
    (ha' : a'.Distinct) (hb' : b'.Distinct) (hva : a.view = a'.view) (hvb : b.view = b'.view) :
    Report.between a b = Report.between a' b' := by
  refine (Report.ordered_between a b).ext (Report.ordered_between a' b') ?_
  intro level e
  rw [mem_level_iff_discrepancy ha hb, mem_level_iff_discrepancy ha' hb', hva, hvb]

end Views

/-- **Equivalent coverage**: of projects that operations can give, their classes and lines held in
any order, the comparison reads the views alone, and it is empty exactly where they are the same.
So emptiness is reflexive, symmetric and transitive, and equivalent sides have the same report. -/
theorem Report.between_equivalence {a a' b b' c : Project} (ha : a.Stored) (ha' : a'.Stored)
    (hb : b.Stored) (hb' : b'.Stored) (hc : c.Stored) :
    (a.view = a'.view → b.view = b'.view → between a b = between a' b') ∧
      ((between a b).isEmpty = true ↔ a.view = b.view) ∧
      (between a a).isEmpty = true ∧
      ((between a b).isEmpty = true → (between b a).isEmpty = true) ∧
      ((between a b).isEmpty = true → (between b c).isEmpty = true →
        (between a c).isEmpty = true) ∧
      ((between a a').isEmpty = true → (between b b').isEmpty = true →
        between a b = between a' b') := by
  have hda := ha.distinct
  have hda' := ha'.distinct
  have hdb := hb.distinct
  have hdb' := hb'.distinct
  have hdc := hc.distinct
  rw [isEmpty_between_iff hda hdb, isEmpty_between_iff hda hda, isEmpty_between_iff hdb hda,
    isEmpty_between_iff hdb hdc, isEmpty_between_iff hda hdc, isEmpty_between_iff hda hda',
    isEmpty_between_iff hdb hdb']
  refine ⟨?_, Iff.rfl, rfl, Eq.symm, Eq.trans, ?_⟩
  · exact between_eq_of_view_eq hda hdb hda' hdb'
  · exact between_eq_of_view_eq hda hdb hda' hdb'

namespace Sample

/-- The run `earlier` with other counts and methods and another order of keys. -/
def recounted : Project where
  classes :=
    [{ name := "org.example.Bar", lines := [{ number := 10, hits := 6 }] },
      { name := "org.example.Foo",
        lines :=
          [{ number := 3, hits := 9, jumps := [⟨0, 5, 0⟩], switches := [⟨1, [2, 7], [0, 1], 0⟩] },
            { number := 5, hits := 1, method := some "main" }] }]

/-- The class with its lines in the other direction. -/
private def turned (c : Class) : Class :=
  { c with lines := c.lines.reverse }

/-- The run `recounted` with classes and lines in the other direction. -/
def rearranged : Project where
  classes := recounted.classes.reverse.map turned

theorem stored_rearranged : rearranged.Stored := by
  refine ⟨recounted, by decide, recounted.classes.map turned, ?_, ?_⟩
  · exact (List.reverse_perm _).map turned
  · refine List.forall₂_map_left_iff.mpr (List.forall₂_same.mpr ?_)
    exact fun c _ => ⟨rfl, List.reverse_perm _⟩

/-- What is compared with `later` may be recounted and rearranged. -/
theorem between_rearranged_later :
    (Report.between earlier rearranged).isEmpty = true ∧
      Report.between earlier later = Report.between rearranged later := by
  have he := reachable_earlier.stored
  have hl := reachable_later.stored
  obtain ⟨_, _, _, _, _, hcongr⟩ :=
    Report.between_equivalence he stored_rearranged hl hl he
  have hempty : (Report.between earlier rearranged).isEmpty = true := by decide +kernel
  have hlater : (Report.between later later).isEmpty = true := by decide +kernel
  exact ⟨hempty, hcongr hempty hlater⟩

end Sample

end CoverageDiff
