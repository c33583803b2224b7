import CoverageDiff.Proofs.Loaded
import CoverageDiff.Proofs.Merging
import CoverageDiff.Proofs.Regrouping
import CoverageDiff.Proofs.Selection

/-!
# CoverageDiff.Proofs.Filtering

Classes can be selected before or after projects are merged.  Merging joins
what has the same name, so of each name it has both sides or neither
(`Project.filter_merge`).  By induction on the reports this carries over to
all reports of a side (`Project.filter_foldl_merge`).

A side is loaded with its filter applied last, and not at all if the filter
has no patterns.  Both ways it is what the reports give when each of them is
filtered by itself (`select_merge_and_loadSide`).
-/

namespace CoverageDiff

open CoverageDiff.Shelf Cobertura Files

/-! ## Projects -/

namespace Project

/-- Names that do not pass are left out of both sides, and so of the merged project. -/
theorem filter_merge {p q : Project} (hp : p.WellFormed) (hq : q.WellFormed)
    (allow : String → Bool) :
    (p.merge q).filter allow = (p.filter allow).merge (q.filter allow) := by
  have hlookup : ∀ name, ((p.merge q).filter allow).class? name =
      ((p.filter allow).merge (q.filter allow)).class? name := by
    intro name
    rw [class?_filter, class?_merge hp hq, class?_merge (hp.filter allow) (hq.filter allow),
      class?_filter, class?_filter]
    by_cases hname : allow name
    · simp only [if_pos hname]
    · simp only [if_neg hname, Option.merge_none_left]
  have hleft := ((hp.merge hq).filter allow).ascending
  have hright := ((hp.filter allow).merge (hq.filter allow)).ascending
  exact congrArg Project.mk (hleft.ext hright hlookup)

/-- The same for any number of projects that are merged one after another. -/
theorem filter_foldl_merge {p : Project} {ps : List Project} (hp : p.WellFormed)
    (hps : ∀ q ∈ ps, q.WellFormed) (allow : String → Bool) :
    (ps.foldl merge p).filter allow =
      (ps.map fun q => q.filter allow).foldl merge (p.filter allow) := by
  induction ps generalizing p with
  | nil => rfl
  | cons q qs ih =>
      obtain ⟨hq, hqs⟩ := List.forall_mem_cons.mp hps
      rw [List.foldl_cons, ih (hp.merge hq) hqs, filter_merge hp hq, List.map_cons,
        List.foldl_cons]

theorem select_mergeAll {ps : List Project} (hps : ∀ q ∈ ps, q.WellFormed) (f : ClassFilter) :
    (mergeAll ps).select f = mergeAll (ps.map fun q => q.select f) :=
  filter_foldl_merge .empty hps f.allow

/-- Without patterns every class passes. -/
theorem select_of_isEmpty (p : Project) {f : ClassFilter} (h : f.isEmpty = true) :
    p.select f = p := by
  obtain ⟨hincluded, hexcluded⟩ := Bool.and_eq_true_iff.mp h
  have hallow : ∀ name, f.allow name = true := by
    intro name
    rw [ClassFilter.allow, hincluded, List.isEmpty_iff.mp hexcluded]
    rfl
  have hkeep : p.classes.filter (fun c => f.allow c.name) = p.classes :=
    List.filter_eq_self.mpr fun c _ => hallow c.name
  exact congrArg Project.mk hkeep

end Project

/-! ## Files -/

/-- The projects of report files. -/
def Gives (w : Workspace) (paths : List Path) (ps : List Project) : Prop :=
  List.Forall₂ (fun path p => (loadReport w path).2 = .ok p) paths ps

variable {w : Workspace} {paths : List Path} {ps : List Project}

theorem Gives.wellFormed (h : Gives w paths ps) : ∀ p ∈ ps, p.WellFormed := by
  intro p hp
  obtain ⟨path, _, hpath⟩ := exists_mem_of_forall₂ h hp
  exact wellFormed_of_loadReport hpath

/-- Reports that are read are merged in the order given. -/
theorem Gives.loadInto (h : Gives w paths ps) (p : Project) :
    (loadInto w p paths).2 = .ok (ps.foldl Project.merge p) := by
  induction h generalizing p with
  | nil => rfl
  | cons hpath _ ih =>
      rw [CoverageDiff.loadInto, Logged.snd_andThen, hpath]
      exact ih _

/-- Leaving a filter without patterns out is as good as applying it. -/
theorem selectWith_some (f : ClassFilter) (p : Project) : selectWith (some f) p = p.select f := by
  rw [selectWith]
  by_cases hempty : f.isEmpty = true
  · rw [if_pos hempty, p.select_of_isEmpty hempty]
  · rw [if_neg hempty]

theorem Gives.loadSide (h : Gives w paths ps) (f : ClassFilter) :
    (loadSide w paths (some f)).2 = .ok (Project.mergeAll (ps.map fun p => p.select f)) := by
  rw [CoverageDiff.loadSide, Logged.snd_andThen, loadReports, h.loadInto,
    ← Project.select_mergeAll h.wellFormed, ← selectWith_some]
  rfl

/-- **Filtering before or after**: two projects that operations can give are merged and filtered, or
filtered and merged, to the same project.  So a side that is loaded from any report files with a
filter, also with one that has no patterns, is what the filtered reports are merged to. -/
theorem select_merge_and_loadSide :
    (∀ (p q : Project) (f : ClassFilter), p.Reachable → q.Reachable →
        (p.merge q).select f = (p.select f).merge (q.select f)) ∧
      ∀ (w : Workspace) (paths : List Path) (ps : List Project) (f : ClassFilter),
        Gives w paths ps →
          (loadSide w paths (some f)).2 =
            .ok (Project.mergeAll (ps.map fun p => p.select f)) := by
  refine ⟨?_, fun _ _ _ f h => h.loadSide f⟩
  intro p q f hp hq
  exact Project.filter_merge hp.wellFormed hq.wellFormed f.allow

/-! ## Samples -/

namespace Sample

/-- The projects of both report files. -/
theorem gives_twoFiles :
    Gives twoFiles [{ names := ["a.xml"] }, { names := ["b.xml"] }]
      [projectOf [classNode [switchRow]], projectOf [classNode [plainRow]]] := by
  obtain _ | ⟨hswitch, _ | ⟨hplain, _⟩⟩ := documents_twoFiles
  have haccepted : ∀ row ∈ [switchRow, plainRow],
      Accepted (classElements (reportNode [classNode [row]])) := by
    intro row hrow n hn
    have hproject : ∀ row ∈ [switchRow, plainRow],
        project? "" (reportNode [classNode [row]]) = .ok (projectOf [classNode [row]]) := by
      decide +kernel
    have hdistinct : ∀ row ∈ [switchRow, plainRow],
        ∀ n ∈ classElements (reportNode [classNode [row]]), ClassDistinct n := by
      decide +kernel
    exact ⟨(project?_eq_ok_iff.mp (hproject row hrow)).2.1 n hn, hdistinct row hrow n hn⟩
  exact .cons (hswitch.loadReport_eq_ok (haccepted _ (by simp)))
    (.cons (hplain.loadReport_eq_ok (haccepted _ (by simp))) .nil)

/-- The sample runs and the two files, each with one filter that has patterns and one that has
none. -/
theorem select_merge_of_samples :
    ((earlier.merge later).select withoutBar).classNames = ["org.example.Baz", "org.example.Foo"] ∧
      (earlier.merge later).select withoutBar =
        (earlier.select withoutBar).merge (later.select withoutBar) ∧
      (loadSide twoFiles [{ names := ["a.xml"] }, { names := ["b.xml"] }] (some withoutBar)).2 =
        .ok .empty ∧
      (loadSide twoFiles [{ names := ["a.xml"] }, { names := ["b.xml"] }] (some {})).2 =
        .ok bothRows := by
  obtain ⟨hmerge, hload⟩ := select_merge_and_loadSide
  have hfiles := fun f => hload twoFiles _ _ f gives_twoFiles
  refine ⟨by decide +kernel, hmerge _ _ _ reachable_earlier reachable_later, ?_, ?_⟩
  · rw [hfiles]
    decide +kernel
  · rw [hfiles]
    decide +kernel

end Sample

end CoverageDiff
