import CoverageDiff.Proofs.Equivalence
import CoverageDiff.Proofs.Insertion

/-!
# CoverageDiff.Proofs.InsertionOrder

A report does not see the order in which its sides were filled.  There are two
such orders:

1. the order in which a project holds its classes, lines and branches
   (`Project.Reorders`);
2. the order in which they are inserted one after another
   (`Insertion.Reordered`).  Only insertions that set the same part of a line
   have to keep theirs.

Neither is part of the view of a project, and a report reads nothing else
(`Report.between_canonical`).
-/

namespace CoverageDiff

open CoverageDiff.Shelf

/-! ## Insertions in another order -/

namespace Insertion

/-- The same insertions in another order, in which those that set one part keep theirs. -/
structure Reordered (is js : List Insertion) : Prop where
  perm : is.Perm js
  slots : ∀ place,
    (is.filter fun i => i.slot? = some place) = js.filter fun i => i.slot? = some place

variable {is js : List Insertion}

/-- What is set in a part comes from the insertions that are to set it. -/
theorem filterMap_sets? (is : List Insertion) (name : String) (n : Int) (k : Slot) :
    ((is.filter fun i => i.className = name).filterMap fun i => i.sets? n k) =
      (is.filter fun i => i.slot? = some (name, n, k)).filterMap fun i => i.sets? n k := by
  rw [List.filterMap_filter, List.filterMap_filter]
  refine List.filterMap_congr fun i _ => ?_
  cases i with
  | openClass c => simp [sets?]
  | openLine c m method => simp [sets?]
  | edit c m e =>
      by_cases hc : c = name
      · subst hc
        by_cases hset : m = n ∧ e.slot = k
        · simp [className, slot?, hset]
        · have hnone : (edit c m e).sets? n k = none :=
            if_neg fun hall => hset ⟨hall.2.1, hall.2.2.1⟩
          simp [className, slot?, hset, hnone]
      · simp [className, slot?, hc]

/-- Insertions that set no part twice can be made in any order. -/
theorem Reordered.of_nodup (h : is.Perm js) (hnodup : (is.filterMap slot?).Nodup) :
    Reordered is js where
  perm := h
  slots := by
    intro place
    have hperm := h.filter fun i => i.slot? = some place
    have hslot : ∀ i ∈ is.filter fun i => i.slot? = some place, i.slot? = some place :=
      fun i hi => of_decide_eq_true (List.mem_filter.mp hi).2
    have hsub : ((is.filter fun i => i.slot? = some place).filterMap slot?).Nodup :=
      hnodup.sublist (List.filter_sublist.filterMap slot?)
    generalize (is.filter fun i => i.slot? = some place) = xs at hperm hslot hsub ⊢
    cases xs with
    | nil => exact hperm.nil_eq
    | cons x xs =>
        cases xs with
        | nil => exact List.singleton_perm.mp hperm
        | cons y xs =>
            -- two insertions for one part
            have hx : x.slot? = some place := hslot x List.mem_cons_self
            have hy : y.slot? = some place := hslot y (List.mem_cons_of_mem x List.mem_cons_self)
            rw [List.filterMap_cons_some hx, List.filterMap_cons_some hy] at hsub
            exact absurd List.mem_cons_self (List.nodup_cons.mp hsub).1

/-- The order of insertions is not part of the view. -/
theorem Reordered.view_eq (h : Reordered is js) {p : Project} (hp : p.WellFormed) :
    (p.insertAll is).view = (p.insertAll js).view := by
  refine Project.view_eq_of_classOrNew ?_ ?_
  · intro c
    rw [Project.isSome_class?_insertAll, Project.isSome_class?_insertAll]
    simp only [h.perm.mem_iff]
  · intro c
    have hc := hp.classOrNew c
    have hperm := h.perm.filter fun i => i.className = c
    rw [Project.classOrNew_insertAll, Project.classOrNew_insertAll]
    refine Class.view_eq_of_content? (hc.insertAll _) (hc.insertAll _) ?_ ?_
    · intro n
      rw [Class.isSome_line?_insertAll hc, Class.isSome_line?_insertAll hc]
      simp only [hperm.mem_iff]
    · intro n k
      rw [Class.content?_insertAll hc, Class.content?_insertAll hc, filterMap_sets?,
        filterMap_sets?, h.slots]

end Insertion

/-! ## The report -/

namespace Report

/-- An ordered report has no two elements of one key at one level. -/
theorem Ordered.nodup_sortKey {r : Report} (h : r.Ordered) (level : Level) :
    ((r.level level).map Element.sortKey).Nodup := by
  refine List.pairwise_map.mpr ((h level).imp ?_)
  intro e f hlt heq
  have hposition : e.position = f.position := by
    rw [Element.position, Element.position, heq]
  exact ne_of_lt hlt hposition

/-- **Canonical form**: of projects that operations can give, every list of the report is strictly
ascending by class, line and index, so no key is there twice.  The report stays the same whatever
order the sides hold their classes, lines and branches in, and whatever order classes, lines and
branches are inserted in. -/
theorem between_canonical {a b : Project} (ha : a.Reachable) (hb : b.Reachable) :
    (between a b).Ordered ∧
      (∀ level, (((between a b).level level).map Element.sortKey).Nodup) ∧
      (∀ a' b' : Project, a'.Reorders a → b'.Reorders b → between a' b' = between a b) ∧
      ∀ is is' js js' : List Insertion, Insertion.Reordered is is' → Insertion.Reordered js js' →
        between (a.insertAll is) (b.insertAll js) =
          between (a.insertAll is') (b.insertAll js') := by
  have hda := ha.wellFormed.distinct
  have hdb := hb.wellFormed.distinct
  refine ⟨ordered_between a b, (ordered_between a b).nodup_sortKey, ?_, ?_⟩
  · intro a' b' ha' hb'
    exact between_eq_of_view_eq (ha'.distinct hda) (hb'.distinct hdb) hda hdb (ha'.view_eq hda)
      (hb'.view_eq hdb)
  · intro is is' js js' his hjs
    have hdistinct : ∀ {p : Project}, p.Reachable → ∀ ks, (p.insertAll ks).Distinct :=
      fun hp ks => (hp.insertAll ks).wellFormed.distinct
    exact between_eq_of_view_eq (hdistinct ha is) (hdistinct hb js) (hdistinct ha is')
      (hdistinct hb js') (his.view_eq ha.wellFormed) (hjs.view_eq hb.wellFormed)

end Report

namespace Sample

/-- The run `earlier`, held the other way round. -/
def shuffled : Project where
  classes :=
    [{ name := "org.example.Foo",
       lines :=
         [{ number := 5, hits := 4 },
           { number := 3, hits := 2, method := some "run", jumps := [⟨0, 1, 0⟩],
             switches := [⟨1, [7, 2], [3, 0], 0⟩] }] },
      { name := "org.example.Bar", lines := [{ number := 10, hits := 1 }] }]

theorem reorders_shuffled : shuffled.Reorders earlier := by
  refine ⟨shuffled.classes.reverse, (List.reverse_perm _).symm, ?_⟩
  refine .cons (.refl _) (.cons ⟨rfl, ?_⟩ .nil)
  exact ⟨_, List.Perm.swap _ _ [], List.forall₂_same.mpr fun l _ => .refl l⟩

/-- More of a run: two classes, two lines and two jumps of one line. -/
def more : List Insertion :=
  [.edit "org.example.Foo" 3 (.jump ⟨2, 0, 1⟩), .openClass "org.example.Qux",
    .edit "org.example.Foo" 3 (.jump ⟨1, 1, 1⟩), .openLine "org.example.Foo" 4 (some "run"),
    .edit "org.example.Bar" 2 (.hits 1)]

/-- Filled with more in two orders, and held in two orders, the samples have one report. -/
theorem between_shuffled :
    Report.between shuffled later = Report.between earlier later ∧
      Report.between (earlier.insertAll more) (later.insertAll more.reverse) =
        Report.between (earlier.insertAll more.reverse) (later.insertAll more) ∧
      (Report.between (earlier.insertAll more) (later.insertAll more)).lines.length = 3 := by
  obtain ⟨_, _, hheld, hinserted⟩ := Report.between_canonical reachable_earlier reachable_later
  have hmore : Insertion.Reordered more more.reverse :=
    .of_nodup (List.reverse_perm more).symm (by decide)
  have hback : Insertion.Reordered more.reverse more :=
    .of_nodup (List.reverse_perm more) (by decide)
  exact ⟨hheld shuffled later reorders_shuffled (.refl later),
    hinserted more more.reverse more.reverse more hmore hback, by decide +kernel⟩

end Sample

end CoverageDiff
