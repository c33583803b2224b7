import CoverageDiff.Filter
import CoverageDiff.Proofs.Equivalence

/-!
# CoverageDiff.Proofs.Selection

Comparing only some of the classes.  What is to be reported of a class depends
on what the two sides hold of that class and of no other
(`Discrepancy.congr`).  So it makes no difference whether classes are left out
of both sides before they are compared, or out of the report afterwards
(`Report.between_select`).
-/

namespace CoverageDiff

open CoverageDiff.Shelf

/-! ## Some of the classes -/

/-- The view of the classes whose name passes. -/
def ProjectView.restrict (v : ProjectView) (allow : String → Bool) : ProjectView :=
  fun name => if allow name then v name else none

namespace Project

theorem class?_filter (p : Project) (allow : String → Bool) (name : String) :
    (p.filter allow).class? name = if allow name then p.class? name else none :=
  find?_filter allow name p.classes

theorem view_filter (p : Project) (allow : String → Bool) :
    (p.filter allow).view = p.view.restrict allow := by
  funext name
  rw [view, class?_filter, ProjectView.restrict]
  by_cases hname : allow name
  · rw [if_pos hname, if_pos hname, view]
  · rw [if_neg hname, if_neg hname, Option.map_none]

theorem Distinct.filter {p : Project} (h : p.Distinct) (allow : String → Bool) :
    (p.filter allow).Distinct where
  classes := h.classes.sublist (List.filter_sublist.map key)
  lines := fun c hc => h.lines c (List.mem_of_mem_filter hc)
  jumps := fun c hc => h.jumps c (List.mem_of_mem_filter hc)
  switches := fun c hc => h.switches c (List.mem_of_mem_filter hc)

end Project

/-! ## Discrepancies of one class -/

variable {a a' b b' : ProjectView} {level : Level} {e : Element}

theorem ProjectView.line?_congr {c : String} (h : a c = a' c) (n : Int) :
    a.line? c n = a'.line? c n := by
  rw [line?, line?, h]

/-- **Locality**: what is to be reported of a class depends on what the sides hold of it alone. -/
theorem Discrepancy.congr (ha : a e.className = a' e.className)
    (hb : b e.className = b' e.className) (h : Discrepancy a b level e) :
    Discrepancy a' b' level e := by
  have hsomeA := congrArg Option.isSome ha.symm
  have hsomeB := congrArg Option.isSome hb.symm
  have hla := fun n => (ProjectView.line?_congr ha n).symm
  have hlb := fun n => (ProjectView.line?_congr hb n).symm
  cases h with
  | classRemoved hca hcb => exact .classRemoved (hsomeA.trans hca) (hb.symm.trans hcb)
  | classAdded hca hcb => exact .classAdded (ha.symm.trans hca) (hsomeB.trans hcb)
  | lineRemoved hc hna hnb =>
      exact .lineRemoved (hsomeB.trans hc) ((hla _).trans hna) ((hlb _).trans hnb)
  | lineAdded hc hna hnb =>
      exact .lineAdded (hsomeA.trans hc) ((hla _).trans hna) ((hlb _).trans hnb)
  | lineChanged hna hnb hne => exact .lineChanged ((hla _).trans hna) ((hlb _).trans hnb) hne
  | jumpRemoved hna hnb hja hjb =>
      exact .jumpRemoved ((hla _).trans hna) ((hlb _).trans hnb) hja hjb
  | jumpAdded hna hnb hja hjb =>
      exact .jumpAdded ((hla _).trans hna) ((hlb _).trans hnb) hja hjb
  | jumpChanged hna hnb hja hjb hne =>
      exact .jumpChanged ((hla _).trans hna) ((hlb _).trans hnb) hja hjb hne
  | switchRemoved hna hnb hsa hsb hxs =>
      exact .switchRemoved ((hla _).trans hna) ((hlb _).trans hnb) hsa hsb hxs
  | switchAdded hna hnb hsa hsb hxs =>
      exact .switchAdded ((hla _).trans hna) ((hlb _).trans hnb) hsa hsb hxs
  | switchChanged hna hnb hsa hsb hne hxs hys =>
      exact .switchChanged ((hla _).trans hna) ((hlb _).trans hnb) hsa hsb hne hxs hys

/-- Of some of the classes is to be reported what is to be reported of them among all. -/
theorem discrepancy_restrict_iff (allow : String → Bool) :
    Discrepancy (a.restrict allow) (b.restrict allow) level e ↔
      Discrepancy a b level e ∧ allow e.className = true := by
  by_cases hallow : allow e.className
  · have ha : a.restrict allow e.className = a e.className := if_pos hallow
    have hb : b.restrict allow e.className = b e.className := if_pos hallow
    constructor
    · intro h
      exact ⟨h.congr ha hb, hallow⟩
    · rintro ⟨h, _⟩
      exact h.congr ha.symm hb.symm
  · -- Neither side holds anything of the class, so they hold the same.
    have hsame : a.restrict allow e.className = b.restrict allow e.className :=
      (if_neg hallow).trans (if_neg hallow).symm
    constructor
    · intro h
      exact absurd (h.congr hsame rfl) (not_discrepancy_self _)
    · rintro ⟨_, hpass⟩
      exact absurd hpass hallow

/-! ## Reports -/

namespace Report

/-- A report stays in order when elements are left out. -/
theorem Ordered.map_filter {r : Report} (h : r.Ordered) (keep : Element → Bool) :
    (r.map (List.filter keep)).Ordered := by
  intro level
  rw [level_map]
  exact (h level).filter keep

/-- Leaving out classes before or after comparing gives the same report. -/
theorem between_filter {a b : Project} (ha : a.Distinct) (hb : b.Distinct)
    (allow : String → Bool) :
    between (a.filter allow) (b.filter allow) =
      (between a b).map (List.filter fun e => allow e.className) := by
  have hordered := (ordered_between a b).map_filter fun e => allow e.className
  refine (ordered_between _ _).ext hordered ?_
  intro level e
  rw [mem_level_iff_discrepancy (ha.filter allow) (hb.filter allow), Project.view_filter,
    Project.view_filter, discrepancy_restrict_iff, level_map, List.mem_filter,
    mem_level_iff_discrepancy ha hb]

/-- **Selection**: of projects that operations can give, their classes and lines held in any order,
the selected classes are reported as the report without the elements of the other classes, with the
rest in the same order.  This holds of any way to select by name, and so of every filter. -/
theorem between_select {a b : Project} (ha : a.Stored) (hb : b.Stored) :
    (∀ allow : String → Bool, between (a.filter allow) (b.filter allow) =
        (between a b).map (List.filter fun e => allow e.className)) ∧
      ∀ f : ClassFilter, between (a.select f) (b.select f) =
        (between a b).map (List.filter fun e => f.allow e.className) := by
  have hfilter := between_filter ha.distinct hb.distinct
  exact ⟨hfilter, fun f => hfilter f.allow⟩

end Report

namespace Sample

/-- The filter of a text that leaves out the classes of one name. -/
def withoutBar : ClassFilter :=
  (ClassFilter.ofPlan? (.ofText "org.example.* -exclude .*Bar")).toOption.getD {}

/-- Of the sample runs without one class the report is that of the runs, without that class. -/
theorem between_select_withoutBar :
    Report.between (earlier.select withoutBar) (later.select withoutBar) =
        (Report.between earlier later).map (List.filter fun e => withoutBar.allow e.className) ∧
      (Report.between (earlier.select withoutBar) (later.select withoutBar)).classes =
        [{ className := "org.example.Baz", kind := .added }] := by
  have hselect := (Report.between_select reachable_earlier.stored reachable_later.stored).2
  refine ⟨hselect withoutBar, ?_⟩
  rw [hselect withoutBar]
  decide +kernel

end Sample

end CoverageDiff
