import Mathlib.Data.Set.Defs
import CoverageDiff.Proofs.Description

/-!
# CoverageDiff.Proofs.View

What a comparison reads of a coverage tree.

1. The view of a line is its status, the outcome of each jump and the set of
   covered labels of each switch; counts, methods and the order of keys are
   not part of it.
2. The view of a class or project is what is found under each key, so it does
   not depend on the order in which classes and lines are held.

`Project.Reorders` relates a project to one that holds the same classes, lines
and branches in another order, and `Project.Rearranges` to one that has only
its classes and lines in another order.  `Project.Stored` are the reachable
projects with their classes and lines in any order.
-/

namespace CoverageDiff

open CoverageDiff.Shelf

/-! ## Covered labels -/

/-- `labels` lists the elements of `s` in ascending order, each once. -/
structure Lists (labels : List String) (s : Set String) : Prop where
  /-- The list is strictly ascending. -/
  ascending : labels.Pairwise (· < ·)
  /-- It has the elements of the set and no others. -/
  mem_iff : ∀ x, x ∈ labels ↔ x ∈ s

/-- A set has one listing. -/
theorem Lists.unique {xs ys : List String} {s : Set String} (hxs : Lists xs s) (hys : Lists ys s) :
    xs = ys := by
  refine eq_of_pairwise_lt (f := id) hxs.ascending hys.ascending ?_
  intro x
  rw [hxs.mem_iff, hys.mem_iff]

namespace Switch

/-- The labels of the cases with a positive count. -/
def covered (s : Switch) : Set String :=
  {label | ∃ n, (label, n) ∈ s.caseLabels.zip s.caseHits ∧ 0 < n}

/-- The covered cases of a switch are the covered labels, ascending, each once. -/
theorem lists_coveredCases (s : Switch) : Lists s.coveredCases s.covered where
  ascending := List.pairwise_map.mpr (Ascending.ofList _)
  mem_iff := by
    intro label
    rw [coveredCases, mem_keys_ofList, mem_keys]
    constructor
    · rintro ⟨⟨x, n⟩, hcase, rfl⟩
      obtain ⟨hmem, hpos⟩ := List.mem_filter.mp hcase
      exact ⟨n, hmem, of_decide_eq_true hpos⟩
    · rintro ⟨n, hmem, hpos⟩
      exact ⟨(label, n), List.mem_filter.mpr ⟨hmem, decide_eq_true hpos⟩, rfl⟩

/-- Two switches have the same covered cases exactly if they cover the same labels. -/
theorem coveredCases_eq_iff {s t : Switch} :
    s.coveredCases = t.coveredCases ↔ s.covered = t.covered := by
  constructor
  · intro h
    ext label
    rw [← s.lists_coveredCases.mem_iff, h, t.lists_coveredCases.mem_iff]
  · intro h
    exact (h ▸ s.lists_coveredCases).unique t.lists_coveredCases

end Switch

/-! ## Views -/

/-- What a comparison reads of a line. -/
@[ext] structure LineView where
  /-- The derived coverage. -/
  status : Status
  /-- The outcome of the jump at an index. -/
  outcome : Int → Option (Bool × Bool)
  /-- The covered labels of the switch at an index. -/
  covered : Int → Option (Set String)

/-- What a comparison reads of a class: its lines by number. -/
abbrev ClassView := Int → Option LineView

/-- What a comparison reads of a project: its classes by name. -/
abbrev ProjectView := String → Option ClassView

/-- The line of a class. -/
def ProjectView.line? (v : ProjectView) (className : String) (number : Int) : Option LineView :=
  (v className).bind fun c => c number

/-- A project whose view has a line has the class of the line. -/
theorem ProjectView.isSome_of_line? {v : ProjectView} {c : String} {n : Int} {l : LineView}
    (h : v.line? c n = some l) : (v c).isSome := by
  obtain ⟨k, hk, _⟩ := Option.bind_eq_some_iff.mp h
  exact Option.isSome_of_eq_some hk

/-- The view of a line. -/
def Line.view (l : Line) : LineView where
  status := l.status
  outcome := fun i => (l.jump? i).map Jump.outcome
  covered := fun i => (l.switch? i).map Switch.covered

/-- The view of a class. -/
def Class.view (c : Class) : ClassView :=
  fun number => (c.line? number).map Line.view

/-- The view of a project. -/
def Project.view (p : Project) : ProjectView :=
  fun name => (p.class? name).map Class.view

/-- The line of a class. -/
def Project.line? (p : Project) (className : String) (number : Int) : Option Line :=
  (p.class? className).bind fun c => c.line? number

namespace Project

theorem view_eq_none_iff {p : Project} {name : String} :
    p.view name = none ↔ p.class? name = none := by
  rw [view, Option.map_eq_none_iff]

theorem isSome_view (p : Project) (name : String) :
    (p.view name).isSome = (p.class? name).isSome := by
  rw [view, Option.isSome_map]

theorem line?_eq_some_iff {p : Project} {name : String} {number : Int} {l : Line} :
    p.line? name number = some l ↔ ∃ c, p.class? name = some c ∧ c.line? number = some l :=
  Option.bind_eq_some_iff

theorem line?_of_class? {p : Project} {name : String} {c : Class} (h : p.class? name = some c)
    (number : Int) : p.line? name number = c.line? number := by
  rw [line?, h, Option.bind_some]

theorem number_of_line? {p : Project} {name : String} {number : Int} {l : Line}
    (h : p.line? name number = some l) : l.number = number := by
  obtain ⟨c, _, hline⟩ := line?_eq_some_iff.mp h
  exact key_of_find? hline

theorem view_line? (p : Project) (name : String) (number : Int) :
    p.view.line? name number = (p.line? name number).map Line.view := by
  unfold ProjectView.line? view line?
  cases p.class? name with
  | none => rfl
  | some c => rfl

theorem view_line?_eq_some_iff {p : Project} {name : String} {number : Int} {v : LineView} :
    p.view.line? name number = some v ↔ ∃ l, p.line? name number = some l ∧ l.view = v := by
  rw [view_line?, Option.map_eq_some_iff]

end Project

/-! ## Distinct keys -/

/-- No two classes of a project have one name, no two lines of a class one number, and no two
jumps or switches of a line one index. -/
structure Project.Distinct (p : Project) : Prop where
  /-- Class names are distinct. -/
  classes : (keys p.classes).Nodup
  /-- Line numbers of a class are distinct. -/
  lines : ∀ c ∈ p.classes, (keys c.lines).Nodup
  /-- Jump indexes of a line are distinct. -/
  jumps : ∀ c ∈ p.classes, ∀ l ∈ c.lines, (keys l.jumps).Nodup
  /-- Switch indexes of a line are distinct. -/
  switches : ∀ c ∈ p.classes, ∀ l ∈ c.lines, (keys l.switches).Nodup

theorem Project.WellFormed.distinct {p : Project} (h : p.WellFormed) : p.Distinct where
  classes := h.ascending.nodup_keys
  lines := fun c hc => (h.classes c hc).ascending.nodup_keys
  jumps := fun c hc l hl => ((h.classes c hc).lines l hl).jumps.nodup_keys
  switches := fun c hc l hl => ((h.classes c hc).lines l hl).switches.nodup_keys

namespace Project.Distinct

variable {p : Project} {name : String} {c : Class}

theorem lines_of_class? (h : p.Distinct) (hc : p.class? name = some c) : (keys c.lines).Nodup :=
  h.lines c (mem_of_find? hc)

variable {number : Int} {l : Line}

theorem jumps_of_line? (h : p.Distinct) (hl : p.line? name number = some l) :
    (keys l.jumps).Nodup := by
  obtain ⟨c, hc, hline⟩ := line?_eq_some_iff.mp hl
  exact h.jumps c (mem_of_find? hc) l (mem_of_find? hline)

theorem switches_of_line? (h : p.Distinct) (hl : p.line? name number = some l) :
    (keys l.switches).Nodup := by
  obtain ⟨c, hc, hline⟩ := line?_eq_some_iff.mp hl
  exact h.switches c (mem_of_find? hc) l (mem_of_find? hline)

end Project.Distinct

/-! ## Other orders -/

/-- `c` holds the lines of `d`, in any order. -/
structure Class.Rearranges (c d : Class) : Prop where
  /-- The name is the same. -/
  name : c.name = d.name
  /-- The lines are the same up to order. -/
  lines : c.lines.Perm d.lines

/-- `p` holds the classes of `q` in any order, each with its lines in any order. -/
def Project.Rearranges (p q : Project) : Prop :=
  ∃ cs : List Class, p.classes.Perm cs ∧ List.Forall₂ Class.Rearranges cs q.classes

/-- A reachable project whose classes and lines are held in any order, such as that in which they
were made. -/
def Project.Stored (p : Project) : Prop :=
  ∃ q : Project, q.Reachable ∧ p.Rearranges q

/-- `l` has the count and the branches of `m`, the branches in any order. -/
structure Line.Reorders (l m : Line) : Prop where
  number : l.number = m.number
  hits : l.hits = m.hits
  jumps : l.jumps.Perm m.jumps
  switches : l.switches.Perm m.switches

/-- `c` has the lines of `d` in any order, each with its branches in any order. -/
structure Class.Reorders (c d : Class) : Prop where
  name : c.name = d.name
  lines : Shelf.Reorders Line.Reorders c.lines d.lines

/-- `p` has the classes of `q` in any order, each with its lines and branches in any order. -/
def Project.Reorders (p q : Project) : Prop :=
  Shelf.Reorders Class.Reorders p.classes q.classes

theorem Line.Reorders.refl (l : Line) : l.Reorders l :=
  ⟨rfl, rfl, List.Perm.refl _, List.Perm.refl _⟩

theorem Class.Reorders.refl (c : Class) : c.Reorders c :=
  ⟨rfl, Shelf.Reorders.refl Line.Reorders.refl c.lines⟩

theorem Project.Reorders.refl (p : Project) : p.Reorders p :=
  Shelf.Reorders.refl Class.Reorders.refl p.classes

namespace Line.Reorders

variable {l m : Line}

theorem key_eq (l m : Line) (h : l.Reorders m) : key l = key m := h.number

theorem status_eq (h : l.Reorders m) : l.status = m.status := by
  have htouched : l.anyTouched = m.anyTouched := by
    rw [anyTouched, anyTouched, h.jumps.any_eq, h.switches.any_eq]
  have hcovered : l.allCovered = m.allCovered := by
    rw [allCovered, allCovered, h.jumps.all_eq, h.switches.all_eq]
  rw [status, status, h.hits, htouched, hcovered]

theorem view_eq (h : l.Reorders m) (hj : (keys m.jumps).Nodup) (hs : (keys m.switches).Nodup) :
    l.view = m.view := by
  refine LineView.ext h.status_eq ?_ ?_
  · funext i
    exact congrArg (Option.map Jump.outcome) (find?_perm h.jumps hj i)
  · funext i
    exact congrArg (Option.map Switch.covered) (find?_perm h.switches hs i)

end Line.Reorders

namespace Project.Reorders

variable {p q : Project}

private theorem key_eq (c d : Class) (h : c.Reorders d) : key c = key d := h.name

/-- A project that holds the same in another order has the same view. -/
theorem view_eq (h : p.Reorders q) (hq : q.Distinct) : p.view = q.view := by
  have hclass : ∀ c : Class, ∀ d ∈ q.classes, c.Reorders d → c.view = d.view := by
    intro c d hd hcd
    funext number
    refine hcd.lines.map_find? Line.Reorders.key_eq (hq.lines d hd) ?_ number
    intro l m hm hlm
    exact hlm.view_eq (hq.jumps d hd m hm) (hq.switches d hd m hm)
  funext name
  exact Shelf.Reorders.map_find? h key_eq hq.classes hclass name

theorem distinct (h : p.Reorders q) (hq : q.Distinct) : p.Distinct where
  classes := h.nodup_keys key_eq hq.classes
  lines := by
    intro c hc
    obtain ⟨d, hd, hcd⟩ := h.exists_mem hc
    exact hcd.lines.nodup_keys Line.Reorders.key_eq (hq.lines d hd)
  jumps := by
    intro c hc l hl
    obtain ⟨d, hd, hcd⟩ := h.exists_mem hc
    obtain ⟨m, hm, hlm⟩ := hcd.lines.exists_mem hl
    exact (hlm.jumps.map key).nodup_iff.mpr (hq.jumps d hd m hm)
  switches := by
    intro c hc l hl
    obtain ⟨d, hd, hcd⟩ := h.exists_mem hc
    obtain ⟨m, hm, hlm⟩ := hcd.lines.exists_mem hl
    exact (hlm.switches.map key).nodup_iff.mpr (hq.switches d hd m hm)

end Project.Reorders

theorem Class.Rearranges.reorders {c d : Class} (h : c.Rearranges d) : c.Reorders d :=
  ⟨h.name, d.lines, h.lines, List.forall₂_same.mpr fun l _ => .refl l⟩

namespace Project.Rearranges

variable {p q : Project}

theorem refl (p : Project) : p.Rearranges p :=
  Shelf.Reorders.refl (fun c => ⟨rfl, List.Perm.refl c.lines⟩) p.classes

theorem reorders (h : p.Rearranges q) : p.Reorders q :=
  Shelf.Reorders.mono (fun _ _ hcd => hcd.reorders) h

theorem view_eq (h : p.Rearranges q) (hq : q.Distinct) : p.view = q.view :=
  h.reorders.view_eq hq

theorem distinct (h : p.Rearranges q) (hq : q.Distinct) : p.Distinct :=
  h.reorders.distinct hq

end Project.Rearranges

theorem Project.Reachable.stored {p : Project} (h : p.Reachable) : p.Stored :=
  ⟨p, h, .refl p⟩

theorem Project.Stored.distinct {p : Project} (h : p.Stored) : p.Distinct := by
  obtain ⟨q, hq, hpq⟩ := h
  exact hpq.distinct hq.wellFormed.distinct

end CoverageDiff
