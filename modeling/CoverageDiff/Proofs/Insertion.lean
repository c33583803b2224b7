import CoverageDiff.Proofs.Refusal

/-!
# CoverageDiff.Proofs.Insertion

Filling a project step by step: a class is asked for, a line is asked for, or
an edit is made on a line (`Insertion`).  Each of these is a step of a session,
so what is filled from a reachable project is reachable.

A line is read part by part (`Slot`): its count, and the jump or switch at each
index.  An edit sets one part and no other (`Line.content?_apply`).  From this:

* `Class.content?_insert`, `Class.content?_insertAll`: in a part is what was
  last set in it;
* `Class.isSome_line?_insertAll`, `Project.isSome_class?_insertAll`: a line or
  class is there if it was asked for;
* `Project.classOrNew_insertAll`: a class sees the insertions into it alone.
-/

namespace CoverageDiff

open CoverageDiff.Shelf

/-! ## Parts of a line -/

/-- A part of a line that is set as a whole. -/
inductive Slot where
  /-- The count. -/
  | hits
  /-- The jump at an index. -/
  | jump (index : Int)
  /-- The switch at an index. -/
  | switch (index : Int)
  deriving DecidableEq

namespace Edit

/-- The part of the line that an edit sets. -/
def slot : Edit → Slot
  | hits _ => .hits
  | jump j => .jump j.index
  | switch index _ _ _ => .switch index

/-- The edit is not refused. -/
def Accepted : Edit → Prop
  | switch _ ks ns _ => ks.length = ns.length
  | _ => True

instance : DecidablePred Accepted
  | hits _ => inferInstanceAs (Decidable True)
  | jump _ => inferInstanceAs (Decidable True)
  | switch _ ks ns _ => inferInstanceAs (Decidable (ks.length = ns.length))

end Edit

namespace Line

/-- What is in a part of a line, as the edit that sets it. -/
def content? (l : Line) : Slot → Option Edit
  | .hits => some (.hits l.hits)
  | .jump index => (l.jump? index).map .jump
  | .switch index => (l.switch? index).map fun s => .switch s.index s.keys s.hits s.defaultHits

theorem content?_setHits (l : Line) (n : Int) (k : Slot) :
    content? { l with hits := n } k = if .hits = k then some (.hits n) else l.content? k := by
  cases k <;> simp [content?, jump?, switch?]

theorem content?_setJump (l : Line) (j : Jump) (k : Slot) :
    (l.setJump j).content? k = if .jump j.index = k then some (.jump j) else l.content? k := by
  cases k with
  | hits => simp [content?, setJump]
  | jump index => by_cases hj : j.index = index <;> simp [content?, setJump, jump?, find?_put, hj]
  | switch index => simp [content?, setJump, switch?]

theorem content?_setSwitch (l : Line) (s : Switch) (k : Slot) :
    (l.setSwitch s).content? k =
      if .switch s.index = k then some (.switch s.index s.keys s.hits s.defaultHits)
      else l.content? k := by
  cases k with
  | hits => simp [content?, setSwitch]
  | jump index => simp [content?, setSwitch, jump?]
  | switch index =>
      by_cases hs : s.index = index <;> simp [content?, setSwitch, switch?, find?_put, hs]

/-- An edit that is not refused sets its part, and no other. -/
theorem content?_apply (l : Line) (e : Edit) (k : Slot) :
    (l.apply [e]).1.content? k = if e.slot = k ∧ e.Accepted then some e else l.content? k := by
  cases e with
  | hits n => simp [apply, edit, content?_setHits, Edit.slot, Edit.Accepted]
  | jump j => simp [apply, edit, content?_setJump, Edit.slot, Edit.Accepted]
  | switch index ks ns defaultHits =>
      by_cases hlen : ks.length = ns.length
      · simp [apply, edit, Switch.make?, hlen, content?_setSwitch, Edit.slot, Edit.Accepted]
      · simp [apply, edit, Switch.make?, hlen, Edit.Accepted]

/-- The parts of a line determine its view. -/
theorem view_eq_of_content? {l m : Line} (hl : l.WellFormed) (hm : m.WellFormed)
    (h : ∀ k, l.content? k = m.content? k) : l.view = m.view := by
  have hhits : l.hits = m.hits := by simpa [content?] using h .hits
  have hjumps : l.jumps = m.jumps := by
    refine hl.jumps.ext hm.jumps fun index => ?_
    exact Option.map_injective (fun _ _ hj => Edit.jump.inj hj) (h (.jump index))
  have hswitches : l.switches = m.switches := by
    refine hl.switches.ext hm.switches fun index => ?_
    refine Option.map_injective ?_ (h (.switch index))
    rintro ⟨⟩ ⟨⟩ hs
    simpa using hs
  obtain ⟨number, hits, method, jumps, switches⟩ := l
  obtain rfl : hits = m.hits := hhits
  obtain rfl : jumps = m.jumps := hjumps
  obtain rfl : switches = m.switches := hswitches
  rfl

end Line

/-! ## Insertions -/

/-- A step of filling a project. -/
inductive Insertion where
  /-- Ask for a class. -/
  | openClass (className : String)
  /-- Ask for a line of a class. -/
  | openLine (className : String) (number : Int) (method : Option String)
  /-- Ask for a line of a class and edit it. -/
  | edit (className : String) (number : Int) (e : Edit)
  deriving DecidableEq

namespace Insertion

/-- The class that is asked for. -/
def className : Insertion → String
  | openClass c => c
  | openLine c _ _ => c
  | edit c _ _ => c

/-- The line that is asked for, with what is to be made of it. -/
def plan? : Insertion → Option LinePlan
  | openClass _ => none
  | openLine _ n method => some { number := n, method }
  | edit _ n e => some { number := n, edits := [e] }

/-- The number of the line that is asked for. -/
def number? (i : Insertion) : Option Int :=
  i.plan?.map LinePlan.number

/-- The part of a line that is to be set. -/
def slot? : Insertion → Option (String × Int × Slot)
  | edit c n e => some (c, n, e.slot)
  | _ => none

/-- What is set in a part of the line with a number. -/
def sets? (n : Int) (k : Slot) : Insertion → Option Edit
  | edit _ m e => if 1 ≤ m ∧ m = n ∧ e.slot = k ∧ e.Accepted then some e else none
  | _ => none

/-- The step of a session that makes the insertion. -/
def step (project : String) (i : Insertion) : Step :=
  match i.plan? with
  | none => .getClass ⟨project, i.className⟩
  | some plan => .editLine ⟨project, i.className⟩ plan

end Insertion

/-- The class after an insertion into it. -/
def Class.insert (c : Class) (i : Insertion) : Class :=
  match i.plan? with
  | none => c
  | some plan => (c.applyLine plan).1

/-- The project after an insertion. -/
def Project.insert (p : Project) (i : Insertion) : Project :=
  p.putClass ((p.classOrNew i.className).insert i)

/-- The project after insertions one after another. -/
def Project.insertAll (p : Project) (is : List Insertion) : Project :=
  is.foldl Project.insert p

/-- An insertion is a step of a session. -/
theorem Session.project_step_insertion (s : Session) (name : String) (i : Insertion) :
    (s.step (i.step name)).1.project name = (s.project name).insert i := by
  have hput : ∀ c : Class, (s.putClass name c).project name = (s.project name).putClass c := by
    intro c
    rw [putClass, project_put, if_pos rfl]
  rw [Project.insert, Class.insert, Insertion.step]
  cases i.plan? with
  | none => exact hput _
  | some plan =>
      simp only [Session.step]
      split <;> exact hput _

theorem Project.Reachable.insert {p : Project} (h : p.Reachable) (i : Insertion) :
    (p.insert i).Reachable := by
  obtain ⟨steps, name, rfl⟩ := h
  refine ⟨steps ++ [i.step name], name, ?_⟩
  rw [← Session.project_step_insertion, Session.after, List.foldl_append]
  rfl

/-- What is filled from a reachable project is reachable. -/
theorem Project.Reachable.insertAll {p : Project} (h : p.Reachable) (is : List Insertion) :
    (p.insertAll is).Reachable := by
  induction is generalizing p with
  | nil => exact h
  | cons i is ih => exact ih (h.insert i)

/-! ## What a class makes of insertions -/

namespace Class

variable {c : Class}

/-- A line that may be made is there afterwards, with the edits made on it. -/
theorem line?_applyLine (c : Class) (plan : LinePlan) (hn : 1 ≤ plan.number) (n : Int) :
    (c.applyLine plan).1.line? n =
      if plan.number = n then
        some (((c.line? n).getD { number := n, method := plan.method }).apply plan.edits).1
      else c.line? n := by
  have hask : c.lineOrNew plan.number plan.method =
      .ok ((c.line? plan.number).getD { number := plan.number, method := plan.method }) := by
    unfold lineOrNew
    cases c.line? plan.number with
    | some l => rfl
    | none => exact if_neg (Int.not_lt.mpr hn)
  have hnumber : ((c.line? plan.number).getD
      { number := plan.number, method := plan.method }).number = plan.number := by
    cases hl : c.line? plan.number with
    | some l => exact key_of_find? hl
    | none => rfl
  simp only [applyLine, hask, putLine, line?, find?_put, Line.key_eq, Line.number_apply]
  simp only [line?] at hnumber
  rw [hnumber]
  by_cases h : plan.number = n
  · rw [if_pos h, if_pos h, h]
  · rw [if_neg h, if_neg h]

/-- A line that may not be made is not there before either. -/
theorem WellFormed.applyLine_eq_self (hc : c.WellFormed) {plan : LinePlan}
    (hn : plan.number < 1) : (c.applyLine plan).1 = c := by
  have hnone : c.line? plan.number = none := by
    cases hl : c.line? plan.number with
    | none => rfl
    | some l =>
        have hkey : l.number = plan.number := key_of_find? hl
        have hpos := (hc.of_line? hl).number_pos
        omega
  have hask : c.lineOrNew plan.number plan.method = .error (.linePosition plan.number c.name) :=
    lineOrNew_eq_error_iff.mpr ⟨hnone, hn, rfl⟩
  rw [Class.applyLine, hask]

theorem WellFormed.insert (hc : c.WellFormed) (i : Insertion) : (c.insert i).WellFormed := by
  unfold Class.insert
  cases i.plan? with
  | none => exact hc
  | some plan => exact hc.applyLine plan

theorem name_insert (c : Class) (i : Insertion) : (c.insert i).name = c.name := by
  unfold Class.insert
  cases i.plan? with
  | none => rfl
  | some plan => exact c.name_applyLine plan

theorem isSome_line?_applyLine (hc : c.WellFormed) (plan : LinePlan) (n : Int) :
    ((c.applyLine plan).1.line? n).isSome ↔ (c.line? n).isSome ∨ 1 ≤ n ∧ plan.number = n := by
  by_cases hn : 1 ≤ plan.number
  · rw [c.line?_applyLine plan hn]
    by_cases h : plan.number = n
    · simp [h, h ▸ hn]
    · simp [h]
  · rw [hc.applyLine_eq_self (Int.not_le.mp hn)]
    constructor
    · exact Or.inl
    · rintro (hsome | ⟨hpos, h⟩)
      · exact hsome
      · exact absurd (h ▸ hpos) hn

/-- An insertion makes the line it asks for, if there can be one. -/
theorem isSome_line?_insert (hc : c.WellFormed) (i : Insertion) (n : Int) :
    ((c.insert i).line? n).isSome ↔ (c.line? n).isSome ∨ 1 ≤ n ∧ i.number? = some n := by
  unfold Class.insert Insertion.number?
  cases i.plan? with
  | none => simp
  | some plan => simpa using isSome_line?_applyLine hc plan n

/-- What is in a part of the line with a number; a missing line counts as a new one. -/
def content? (c : Class) (n : Int) : Slot → Option Edit :=
  ((c.line? n).getD { number := n }).content?

/-- Asking for a line changes nothing that is set on it. -/
theorem content?_openLine (hc : c.WellFormed) (m : Int) (method : Option String) (n : Int)
    (k : Slot) : (c.applyLine { number := m, method }).1.content? n k = c.content? n k := by
  by_cases hm : 1 ≤ m
  · unfold content?
    rw [c.line?_applyLine _ hm]
    by_cases h : m = n
    · rw [if_pos h, Option.getD_some, Line.apply]
      cases c.line? n with
      | some l => rfl
      | none => cases k <;> rfl
    · rw [if_neg h]
  · rw [hc.applyLine_eq_self (Int.not_le.mp hm)]

/-- **Step lemma**: an insertion puts what it sets into its part, and leaves all others. -/
theorem content?_insert (hc : c.WellFormed) (i : Insertion) (n : Int) (k : Slot) :
    (c.insert i).content? n k = (i.sets? n k).or (c.content? n k) := by
  cases i with
  | openClass _ => rfl
  | openLine _ m method => exact content?_openLine hc m method n k
  | edit name m e =>
      have hinsert : c.insert (.edit name m e) = (c.applyLine { number := m, edits := [e] }).1 :=
        rfl
      rw [hinsert, Insertion.sets?]
      by_cases hm : 1 ≤ m
      · rw [content?, c.line?_applyLine _ hm]
        by_cases h : m = n
        · rw [if_pos h, Option.getD_some, Line.content?_apply]
          by_cases he : e.slot = k ∧ e.Accepted
          · rw [if_pos he, if_pos ⟨hm, h, he⟩, Option.some_or]
          · rw [if_neg he, if_neg fun hall => he hall.2.2, Option.none_or, content?]
        · rw [if_neg h, if_neg fun hall => h hall.2.1, Option.none_or, content?]
      · rw [hc.applyLine_eq_self (Int.not_le.mp hm), if_neg fun hall => hm hall.1, Option.none_or]

/-- **Run lemma**: in a part is what was last set in it, or what was there. -/
theorem content?_insertAll (hc : c.WellFormed) (is : List Insertion) (n : Int) (k : Slot) :
    (is.foldl Class.insert c).content? n k =
      (is.filterMap fun i => i.sets? n k).getLast?.or (c.content? n k) := by
  induction is generalizing c with
  | nil => rfl
  | cons i is ih =>
      rw [List.foldl_cons, ih (hc.insert i), content?_insert hc]
      -- a later insertion into the part hides what `i` sets
      cases hi : i.sets? n k with
      | none => rw [List.filterMap_cons_none hi, Option.none_or]
      | some e =>
          rw [List.filterMap_cons_some hi, List.getLast?_cons, Option.some_or]
          cases (is.filterMap fun i => i.sets? n k).getLast? <;> rfl

theorem isSome_line?_insertAll (hc : c.WellFormed) (is : List Insertion) (n : Int) :
    ((is.foldl Class.insert c).line? n).isSome ↔
      (c.line? n).isSome ∨ 1 ≤ n ∧ ∃ i ∈ is, i.number? = some n := by
  induction is generalizing c with
  | nil => simp
  | cons i is ih =>
      rw [List.foldl_cons, ih (hc.insert i), isSome_line?_insert hc]
      simp only [List.exists_mem_cons_iff]
      tauto

theorem WellFormed.insertAll (hc : c.WellFormed) (is : List Insertion) :
    (is.foldl Class.insert c).WellFormed := by
  induction is generalizing c with
  | nil => exact hc
  | cons i is ih => exact ih (hc.insert i)

/-- The lines that are there and their parts determine the view. -/
theorem view_eq_of_content? {c d : Class} (hc : c.WellFormed) (hd : d.WellFormed)
    (hline : ∀ n, (c.line? n).isSome ↔ (d.line? n).isSome)
    (hcontent : ∀ n k, c.content? n k = d.content? n k) : c.view = d.view := by
  funext n
  refine map_eq_of_isSome_iff (hline n) ?_
  intro l m hl hm
  refine Line.view_eq_of_content? (hc.of_line? hl) (hd.of_line? hm) ?_
  intro k
  have hk := hcontent n k
  rwa [content?, content?, hl, hm] at hk

end Class

/-! ## What a project makes of insertions -/

namespace Project

variable {p q : Project}

theorem class?_insert (p : Project) (i : Insertion) (name : String) :
    (p.insert i).class? name =
      if i.className = name then some ((p.classOrNew name).insert i) else p.class? name := by
  have hname : ((p.classOrNew i.className).insert i).name = i.className := by
    rw [Class.name_insert, name_classOrNew]
  rw [insert, putClass, class?, find?_put, Class.key_eq, hname]
  by_cases h : i.className = name
  · rw [if_pos h, if_pos h, h]
  · rw [if_neg h, if_neg h, class?]

/-- A class sees the insertions into it, and no others. -/
theorem classOrNew_insertAll (p : Project) (is : List Insertion) (name : String) :
    (p.insertAll is).classOrNew name =
      (is.filter fun i => i.className = name).foldl Class.insert (p.classOrNew name) := by
  induction is generalizing p with
  | nil => rfl
  | cons i is ih =>
      rw [insertAll, List.foldl_cons, ← insertAll, ih, classOrNew, class?_insert]
      by_cases h : i.className = name
      · simp [h]
      · simp [h, classOrNew]

theorem isSome_class?_insertAll (p : Project) (is : List Insertion) (name : String) :
    ((p.insertAll is).class? name).isSome ↔
      (p.class? name).isSome ∨ ∃ i ∈ is, i.className = name := by
  induction is generalizing p with
  | nil => simp [insertAll]
  | cons i is ih =>
      rw [insertAll, List.foldl_cons, ← insertAll, ih, class?_insert]
      by_cases h : i.className = name
      · simp [h]
      · simp [h]

/-- The classes that are there and their views determine the view. -/
theorem view_eq_of_classOrNew (hclass : ∀ c, (p.class? c).isSome ↔ (q.class? c).isSome)
    (hview : ∀ c, (p.classOrNew c).view = (q.classOrNew c).view) : p.view = q.view := by
  funext name
  refine map_eq_of_isSome_iff (hclass name) ?_
  intro c d hc hd
  have hv := hview name
  rwa [classOrNew, classOrNew, hc, hd] at hv

end Project

end CoverageDiff
