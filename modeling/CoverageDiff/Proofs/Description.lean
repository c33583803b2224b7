import CoverageDiff.Proofs.Reachable

/-!
# CoverageDiff.Proofs.Description

Every well-formed tree has a description that builds it: its own classes and
lines in their order, each line with its count, its jumps and its switches
(`Project.ofPlans?_plans`).

So the representation invariant is exact: the reachable projects are the
well-formed ones and no others (`Project.reachable_iff_wellFormed`), and
whether a project is reachable can be decided.
-/

namespace CoverageDiff

open CoverageDiff.Shelf

/-! ## Lines -/

/-- The edit that sets a switch. -/
def Switch.edit (s : Switch) : Edit :=
  .switch s.index s.keys s.hits s.defaultHits

namespace Line

/-- The description of a line. -/
def plan (l : Line) : LinePlan where
  number := l.number
  method := l.method
  edits := .hits l.hits :: (l.jumps.map Edit.jump ++ l.switches.map Switch.edit)

/-- Edits that are not refused are followed by what comes after them. -/
theorem apply_append {l m : Line} {es : List Edit} (h : l.apply es = (m, none)) (fs : List Edit) :
    l.apply (es ++ fs) = m.apply fs := by
  induction es generalizing l with
  | nil =>
      cases h
      rfl
  | cons e es ih =>
      rw [List.cons_append, apply]
      rw [apply] at h
      split at h
      · exact ih h
      · cases h

/-- An even switch is made as it is. -/
theorem edit_switch (l : Line) {s : Switch} (hs : s.Even) :
    l.edit s.edit = .ok (l.setSwitch s) := by
  have hmake : Switch.make? s.index s.keys s.hits s.defaultHits = .ok s := if_pos hs
  rw [Switch.edit, edit, hmake]

/-- Jumps set in ascending order are appended. -/
theorem apply_jumps (l : Line) {js : List Jump} (h : Ascending (l.jumps ++ js)) :
    l.apply (js.map Edit.jump) = ({ l with jumps := l.jumps ++ js }, none) := by
  induction js generalizing l with
  | nil => rw [List.append_nil, List.map_nil, apply]
  | cons j js ih =>
      have hput : l.setJump j = { l with jumps := l.jumps ++ [j] } := by
        rw [setJump, h.put_eq_append]
      have happend : l.jumps ++ j :: js = l.jumps ++ [j] ++ js := by
        rw [List.append_assoc, List.singleton_append]
      rw [happend] at h ⊢
      rw [List.map_cons, apply, edit, hput]
      exact ih { l with jumps := l.jumps ++ [j] } h

/-- Even switches set in ascending order are appended. -/
theorem apply_switches (l : Line) {ss : List Switch} (h : Ascending (l.switches ++ ss))
    (heven : ∀ s ∈ ss, s.Even) :
    l.apply (ss.map Switch.edit) = ({ l with switches := l.switches ++ ss }, none) := by
  induction ss generalizing l with
  | nil => rw [List.append_nil, List.map_nil, apply]
  | cons s ss ih =>
      have hput : l.setSwitch s = { l with switches := l.switches ++ [s] } := by
        rw [setSwitch, h.put_eq_append]
      have happend : l.switches ++ s :: ss = l.switches ++ [s] ++ ss := by
        rw [List.append_assoc, List.singleton_append]
      rw [happend] at h ⊢
      rw [List.map_cons, apply, edit_switch l (heven s List.mem_cons_self), hput]
      exact ih { l with switches := l.switches ++ [s] } h
        fun t ht => heven t (List.mem_cons_of_mem s ht)

/-- The edits of a well-formed line make it from a new one. -/
theorem apply_plan {l : Line} (h : l.WellFormed) :
    ({ number := l.number, method := l.method } : Line).apply l.plan.edits = (l, none) := by
  have hjumps : ({ number := l.number, hits := l.hits, method := l.method } : Line).apply
      (l.jumps.map Edit.jump) = ({ l with switches := [] }, none) :=
    apply_jumps _ h.jumps
  have hswitches : ({ l with switches := [] } : Line).apply (l.switches.map Switch.edit) =
      (l, none) :=
    apply_switches { l with switches := [] } h.switches h.even
  rw [plan, apply, edit]
  exact (apply_append hjumps _).trans hswitches

end Line

/-! ## Classes -/

namespace Class

/-- The description of a class. -/
def plan (c : Class) : ClassPlan where
  name := c.name
  lines := c.lines.map Line.plan

/-- Lines planned in ascending order are appended. -/
theorem build?_lines (c : Class) {ls : List Line} (h : Ascending (c.lines ++ ls))
    (hls : ∀ l ∈ ls, l.WellFormed) :
    c.build? (ls.map Line.plan) = .ok { c with lines := c.lines ++ ls } := by
  induction ls generalizing c with
  | nil => rw [List.append_nil, List.map_nil, build?]
  | cons l ls ih =>
      have hl := hls l List.mem_cons_self
      have hnew : c.lineOrNew l.number l.method =
          .ok { number := l.number, method := l.method } := by
        have hnone : c.line? l.number = none := h.find?_eq_none
        rw [lineOrNew, hnone]
        exact if_neg (Int.not_lt.mpr hl.number_pos)
      have hput : c.putLine l = { c with lines := c.lines ++ [l] } := by
        rw [putLine, h.put_eq_append]
      have happly : c.applyLine l.plan = ({ c with lines := c.lines ++ [l] }, none) := by
        have hedits := Line.apply_plan hl
        rw [applyLine, Line.plan, hnew]
        rw [Line.plan] at hedits
        simp only [hedits, hput]
      have happend : c.lines ++ l :: ls = c.lines ++ [l] ++ ls := by
        rw [List.append_assoc, List.singleton_append]
      rw [happend] at h ⊢
      rw [List.map_cons, build?, happly]
      exact ih { c with lines := c.lines ++ [l] } h fun m hm => hls m (List.mem_cons_of_mem l hm)

end Class

/-! ## Projects -/

namespace Project

/-- The description of a project. -/
def plans (p : Project) : List ClassPlan :=
  p.classes.map Class.plan

/-- Classes planned in ascending order are appended. -/
theorem build?_classes (p : Project) {cs : List Class} (h : Ascending (p.classes ++ cs))
    (hcs : ∀ c ∈ cs, c.WellFormed) :
    p.build? (cs.map Class.plan) = .ok { p with classes := p.classes ++ cs } := by
  induction cs generalizing p with
  | nil => rw [List.append_nil, List.map_nil, build?]
  | cons c cs ih =>
      have hc := hcs c List.mem_cons_self
      have hnew : p.classOrNew c.name = { name := c.name } := by
        have hnone : p.class? c.name = none := h.find?_eq_none
        rw [classOrNew, hnone, Option.getD_none]
      have hbuild : (p.classOrNew c.name).build? c.plan.lines = .ok c := by
        rw [hnew]
        exact Class.build?_lines { name := c.name } hc.ascending hc.lines
      have hput : p.putClass c = { p with classes := p.classes ++ [c] } := by
        rw [putClass, h.put_eq_append]
      have happend : p.classes ++ c :: cs = p.classes ++ [c] ++ cs := by
        rw [List.append_assoc, List.singleton_append]
      rw [happend] at h ⊢
      rw [List.map_cons, build?, Class.plan]
      rw [Class.plan] at hbuild
      simp only [hbuild, hput]
      exact ih { p with classes := p.classes ++ [c] } h
        fun d hd => hcs d (List.mem_cons_of_mem c hd)

/-- A well-formed project is built from its own description. -/
theorem ofPlans?_plans {p : Project} (h : p.WellFormed) : ofPlans? p.plans = .ok p :=
  build?_classes empty h.ascending h.classes

/-- **The invariant is exact**: what operations can give are the well-formed projects. -/
theorem reachable_iff_wellFormed {p : Project} : p.Reachable ↔ p.WellFormed :=
  ⟨Reachable.wellFormed, fun h => Reachable.of_ofPlans? (ofPlans?_plans h)⟩

instance (p : Project) : Decidable p.Reachable :=
  decidable_of_iff _ reachable_iff_wellFormed.symm

end Project

/-! ## Samples -/

namespace Sample

/-- Coverage of a run. -/
def earlier : Project where
  classes :=
    [{ name := "org.example.Bar", lines := [{ number := 10, hits := 1 }] },
      { name := "org.example.Foo",
        lines :=
          [{ number := 3, hits := 2, method := some "run", jumps := [⟨0, 1, 0⟩],
             switches := [⟨1, [7, 2], [3, 0], 0⟩] },
            { number := 5, hits := 4 }] }]

/-- Coverage of another run, in which other classes and lines were met. -/
def later : Project where
  classes :=
    [{ name := "org.example.Baz", lines := [{ number := 1, hits := 1 }] },
      { name := "org.example.Foo",
        lines :=
          [{ number := 3, hits := 4, method := some "main", jumps := [⟨0, 2, 5⟩],
             switches := [⟨1, [2, 7], [1, 1], 1⟩] },
            { number := 9, hits := 1 }] }]

theorem reachable_earlier : earlier.Reachable := by decide

theorem reachable_later : later.Reachable := by decide

end Sample

end CoverageDiff
