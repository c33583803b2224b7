import CoverageDiff.Proofs.Aggregation
import CoverageDiff.Proofs.Faithful

/-!
# CoverageDiff.Proofs.Explanation

Why the status of a line changes.  Of a line that was hit on both sides only
the branches can tell, and these are reported as well.

1. Whether everything is covered depends on outcomes, covered cases and keys.
   Where the sides agree on the keys of the switches that both have, equal
   outcomes and equal covered cases give equal statuses
   (`Line.AgreeOnKeys.status_eq`), whatever the sign of the counts.
2. A difference in outcomes or covered cases is an element of the report
   (`Report.exists_jump_of_ne`, `Report.exists_switch_of_ne`).

`Report.changed_line_explained` puts the two together.
-/

namespace CoverageDiff

open CoverageDiff.Shelf

/-! ## Statuses of lines that were hit -/

namespace Line

/-- Switches that both lines have under an index have the same keys, and repeat none. -/
def AgreeOnKeys (l m : Line) : Prop :=
  ∀ i s t, l.switch? i = some s → m.switch? i = some t →
    s.keys.Nodup ∧ t.keys.Nodup ∧ ∀ k, k ∈ s.keys ↔ k ∈ t.keys

variable {l m : Line}

theorem AgreeOnKeys.symm (h : l.AgreeOnKeys m) : m.AgreeOnKeys l := by
  intro i t s ht hs
  obtain ⟨hkeys, hkeys', hmem⟩ := h i s t hs ht
  exact ⟨hkeys', hkeys, fun k => (hmem k).symm⟩

/-- Lines that cover the same have switches under the same indexes. -/
private theorem exists_switch_of_covered_eq (h : l.view.covered = m.view.covered) {i : Int}
    {s : Switch} (hs : l.switch? i = some s) : ∃ t, m.switch? i = some t := by
  have hcovered : m.view.covered i = some s.covered := by
    rw [← h]
    exact congrArg (Option.map Switch.covered) hs
  obtain ⟨t, ht, _⟩ := Option.map_eq_some_iff.mp hcovered
  exact ⟨t, ht⟩

namespace AgreeOnKeys

theorem distinctKeys (h : l.AgreeOnKeys m) (hl : l.WellFormed)
    (hcovered : l.view.covered = m.view.covered) : l.DistinctKeys := by
  intro s hs
  have hfind : l.switch? s.index = some s := find?_key_of_mem hl.switches.nodup_keys hs
  obtain ⟨t, ht⟩ := exists_switch_of_covered_eq hcovered hfind
  exact (h s.index s t hfind ht).1

theorem hasKey (h : l.AgreeOnKeys m) (hcovered : l.view.covered = m.view.covered) {i k : Int}
    (hk : l.HasKey i k) : m.HasKey i k := by
  obtain ⟨s, hs, hmem⟩ := hk
  obtain ⟨t, ht⟩ := exists_switch_of_covered_eq hcovered hs
  exact ⟨t, ht, ((h i s t hs ht).2.2 k).mp hmem⟩

/-- **Statuses**: lines that were hit and whose branches cover the same have one status, if they
agree on keys. -/
theorem status_eq (h : l.AgreeOnKeys m) (hl : l.WellFormed) (hm : m.WellFormed)
    (hlpos : 0 < l.hits) (hmpos : 0 < m.hits) (houtcome : l.view.outcome = m.view.outcome)
    (hcovered : l.view.covered = m.view.covered) : l.status = m.status := by
  have hground : l.SameGround m := {
    hits := iff_of_false (by omega) (by omega)
    keys := fun i k => ⟨h.hasKey hcovered, h.symm.hasKey hcovered.symm⟩ }
  have hreg : l.Regular := ⟨hl, h.distinctKeys hl hcovered⟩
  have hreg' : m.Regular := ⟨hm, h.symm.distinctKeys hm hcovered.symm⟩
  -- a line that was hit is never without coverage
  have hnone : ∀ k : Line, 0 < k.hits → k.status ≠ .none := by
    intro k hpos hstatus
    have hzero := (status_eq_none_iff.mp hstatus).1
    omega
  exact Status.eq_of_iff (iff_of_false (hnone l hlpos) (hnone m hmpos))
    (hground.status_eq_full_iff hreg hreg' houtcome hcovered)

end AgreeOnKeys

end Line

/-! ## Differences that are reported -/

namespace Report

variable {a b : Project} {c : String} {n : Int} {l m : Line}

/-- A line is reported as changed exactly if both sides have it with different statuses. -/
theorem hasLine_changed_iff (ha : a.Distinct) (hb : b.Distinct) :
    (between a b).HasLine .changed c n ↔
      ∃ l m, a.line? c n = some l ∧ b.line? c n = some m ∧ l.status ≠ m.status := by
  constructor
  · rintro ⟨e, he, hkind, rfl, hplace⟩
    have hmem : e ∈ (between a b).level .lines := he
    cases discrepancy_of_mem ha hb hmem with
    | lineRemoved _ _ _ => contradiction
    | lineAdded _ _ _ => contradiction
    | lineChanged hva hvb hne =>
        obtain rfl := Option.some.inj hplace
        obtain ⟨l, hl, rfl⟩ := Project.view_line?_eq_some_iff.mp hva
        obtain ⟨m, hm, rfl⟩ := Project.view_line?_eq_some_iff.mp hvb
        exact ⟨l, m, hl, hm, hne⟩
  · rintro ⟨l, m, hl, hm, hne⟩
    have hva := Project.view_line?_eq_some_iff.mpr ⟨l, hl, rfl⟩
    have hvb := Project.view_line?_eq_some_iff.mpr ⟨m, hm, rfl⟩
    have hmem : _ ∈ (between a b).level .lines :=
      mem_of_discrepancy ha hb (.lineChanged hva hvb hne)
    exact ⟨_, hmem, rfl, rfl, rfl⟩

/-- A difference in the outcomes at an index is reported. -/
theorem exists_jump_of_ne (ha : a.Distinct) (hb : b.Distinct) (hl : a.line? c n = some l)
    (hm : b.line? c n = some m) {i : Int} (hne : l.view.outcome i ≠ m.view.outcome i) :
    ∃ e ∈ (between a b).jumps, e.className = c ∧ e.place = .branch n i := by
  obtain ⟨e, he⟩ : ∃ e, Differs c (.branch n i) _ _ _ e :=
    Differs.exists_of_ne (shown_outcome _) (shown_outcome _) hne
  have hva := Project.view_line?_eq_some_iff.mpr ⟨l, hl, rfl⟩
  have hvb := Project.view_line?_eq_some_iff.mpr ⟨m, hm, rfl⟩
  exact ⟨e, (mem_jumps_between ha hb).mpr ⟨c, n, _, _, hva, hvb, i, he⟩, he.className_eq,
    he.place_eq⟩

/-- A difference in the covered cases at an index is reported. -/
theorem exists_switch_of_ne (ha : a.Distinct) (hb : b.Distinct) (hl : a.line? c n = some l)
    (hm : b.line? c n = some m) {i : Int} (hne : l.view.covered i ≠ m.view.covered i) :
    ∃ e ∈ (between a b).switches, e.className = c ∧ e.place = .branch n i := by
  obtain ⟨e, he⟩ : ∃ e, Differs c (.branch n i) _ _ _ e :=
    Differs.exists_of_ne (shown_covered l i) (shown_covered m i) hne
  have hva := Project.view_line?_eq_some_iff.mpr ⟨l, hl, rfl⟩
  have hvb := Project.view_line?_eq_some_iff.mpr ⟨m, hm, rfl⟩
  exact ⟨e, (mem_switches_between ha hb).mpr ⟨c, n, _, _, hva, hvb, i, he⟩, he.className_eq,
    he.place_eq⟩

/-- **Explanation**: where a line that was hit on both sides is reported as changed, a jump or a
switch of it is reported, if the sides agree on the keys of the switches that both have. -/
theorem changed_line_explained (ha : a.Reachable) (hb : b.Reachable) (hl : a.line? c n = some l)
    (hm : b.line? c n = some m) (hlpos : 0 < l.hits) (hmpos : 0 < m.hits)
    (hkeys : l.AgreeOnKeys m) (hchanged : (between a b).HasLine .changed c n) :
    ∃ e ∈ (between a b).jumps ++ (between a b).switches,
      e.className = c ∧ ∃ i, e.place = .branch n i := by
  have hda := ha.wellFormed.distinct
  have hdb := hb.wellFormed.distinct
  have hne : l.status ≠ m.status := by
    obtain ⟨l', m', hl', hm', hne⟩ := (hasLine_changed_iff hda hdb).mp hchanged
    rw [hl, Option.some.injEq] at hl'
    rw [hm, Option.some.injEq] at hm'
    rwa [hl', hm']
  by_cases houtcome : l.view.outcome = m.view.outcome
  · by_cases hcovered : l.view.covered = m.view.covered
    · exact absurd (hkeys.status_eq (ha.wellFormed.of_line? hl) (hb.wellFormed.of_line? hm) hlpos
        hmpos houtcome hcovered) hne
    · obtain ⟨i, hi⟩ := Function.ne_iff.mp hcovered
      obtain ⟨e, he, hclass, hplace⟩ := exists_switch_of_ne hda hdb hl hm hi
      exact ⟨e, List.mem_append_right _ he, hclass, i, hplace⟩
  · obtain ⟨i, hi⟩ := Function.ne_iff.mp houtcome
    obtain ⟨e, he, hclass, hplace⟩ := exists_jump_of_ne hda hdb hl hm hi
    exact ⟨e, List.mem_append_left _ he, hclass, i, hplace⟩

end Report

namespace Sample

/-- The line that both samples have, as the first one has it. -/
private theorem line?_earlier :
    earlier.line? "org.example.Foo" 3 =
      some { number := 3, hits := 2, method := some "run", jumps := [⟨0, 1, 0⟩],
             switches := [⟨1, [7, 2], [3, 0], 0⟩] } := by
  decide +kernel

/-- The line that both samples have, as the second one has it. -/
private theorem line?_later :
    later.line? "org.example.Foo" 3 =
      some { number := 3, hits := 4, method := some "main", jumps := [⟨0, 2, 5⟩],
             switches := [⟨1, [2, 7], [1, 1], 1⟩] } := by
  decide +kernel

/-- The line is partly covered in one sample and fully in the other, and a branch of it says why. -/
theorem explained_between_earlier_later :
    (Report.between earlier later).HasLine .changed "org.example.Foo" 3 ∧
      ∃ e ∈ (Report.between earlier later).jumps ++ (Report.between earlier later).switches,
        e.className = "org.example.Foo" ∧ ∃ i, e.place = .branch 3 i := by
  have hchanged : (Report.between earlier later).HasLine .changed "org.example.Foo" 3 := by
    refine ⟨{ className := "org.example.Foo", kind := .changed, place := .line 3,
              before := some (.status .partly), after := some (.status .full) }, ?_, rfl, rfl, rfl⟩
    decide +kernel
  refine ⟨hchanged, Report.changed_line_explained reachable_earlier reachable_later line?_earlier
    line?_later (by decide) (by decide) ?_ hchanged⟩
  intro i s t hs ht
  by_cases hi : (1 : Int) = i
  · simp only [Line.switch?, find?_cons, Switch.key_eq, hi, if_true, Option.some.injEq] at hs ht
    rw [← hs, ← ht]
    exact ⟨by simp, by simp, fun k => by simp [or_comm]⟩
  · simp [Line.switch?, find?_cons, hi] at hs

end Sample

end CoverageDiff
