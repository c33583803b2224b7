import CoverageDiff.Proofs.Calls
import CoverageDiff.Proofs.Dictionary
import CoverageDiff.Proofs.WellFormed

/-!
# CoverageDiff.Proofs.KeyedTree

Trees held as objects behave as the trees that they show.

A class held as an object shows a class if it has its name and each line is
found under its number (`KeyedClass.Shows`); a project shows one if under each
name a class is found that shows the one of this name (`KeyedProject.Shows`).
For each call there is one lemma: it agrees with its operation on trees, so
the objects after it show the trees after it, also where it is refused.

The objects of a project that shows one have the form
`KeyedProject.Invariant` (`KeyedProject.Shows.invariant`), and gone through in
order they are it (`KeyedProject.Shows.shown_eq`).
-/

namespace CoverageDiff

open CoverageDiff.Shelf

/-! ## Lists of branches -/

/-- **Merging by scanning is merging in order**, for shelves that are in order. -/
theorem Shelf.absorbByScan_eq_merge {β : Type} [Filed β Int] {join : β → β → β} (hjoin : KeepsKey join)
    {mine others : List β} (hmine : Ascending mine) (hothers : (keys others).Nodup) :
    absorbByScan join mine others = Shelf.merge join mine others := by
  -- what was there at an index is still there when its turn comes, so the dictionary is up to date
  have hloop : ∀ acc : List β, Ascending acc →
      (∀ b ∈ others, find? (key b) acc = (Dictionary.ofValues mine).get? (key b)) →
      others.foldl (fun acc b => putByScan
          (((Dictionary.ofValues mine).get? (key b)).elim b fun a => join a b) acc) acc =
        Shelf.merge join acc others := by
    induction others with
    | nil => exact fun _ _ _ => rfl
    | cons b others ih =>
        obtain ⟨hb, hrest⟩ := List.nodup_cons.mp hothers
        intro acc hacc hsame
        have hstep : Shelf.merge join acc (b :: others) =
            Shelf.merge join (Shelf.putWith join b acc) others := rfl
        rw [List.foldl_cons, ← hsame b List.mem_cons_self, hacc.putByScan_eq_put,
          hacc.put_elim hjoin, hstep]
        refine ih hrest _ (hacc.putWith hjoin b) fun c hc => ?_
        have hne : key b ≠ key c := fun heq => hb (heq ▸ key_mem_keys hc)
        rw [find?_putWith hjoin b hacc, if_neg hne, hsame c (List.mem_cons_of_mem b hc)]
  exact hloop mine hmine fun b _ => (Dictionary.get?_ofValues hmine.nodup_keys (key b)).symm

/-! ## Operations on trees -/

theorem Class.putLine_putLine {c : Class} (h : c.WellFormed) {l m : Line}
    (hnumber : l.number = m.number) : (c.putLine m).putLine l = c.putLine l := by
  rw [putLine, putLine, putLine, h.ascending.put_put hnumber]

/-- The class with a line joined to the one of the same number. -/
def Class.mergeLine (c : Class) (l : Line) : Class :=
  { c with lines := Shelf.putWith Line.merge l c.lines }

/-- A class is merged line by line, in any order of the lines. -/
theorem Class.WellFormed.foldl_mergeLine {a b : Class} (ha : a.WellFormed) (hb : b.WellFormed)
    {ls : List Line} (h : ls.Perm b.lines) : ls.foldl Class.mergeLine a = a.merge b := by
  have hfold : ∀ (ls : List Line) (a : Class),
      ls.foldl Class.mergeLine a = { a with lines := Shelf.merge Line.merge a.lines ls } := by
    intro ls
    induction ls with
    | nil => exact fun _ => rfl
    | cons l ls ih => exact fun a => ih (a.mergeLine l)
  rw [hfold, ha.ascending.merge_perm Line.keepsKey_merge hb.ascending h, Class.merge]

/-! ## Lines -/

namespace Line

variable {l : Line}

theorem change_agrees (h : l.WellFormed) (edit : Edit) :
    Agrees Eq (change edit l)
      (match l.edit edit with
        | .ok l' => (l', .ok ())
        | .error e => (l, .error e)) := by
  cases edit with
  | hits n => exact .ok rfl
  | jump j =>
      have hput : { l with jumps := putByScan j l.jumps } = l.setJump j := by
        rw [h.jumps.putByScan_eq_put, setJump]
      exact .ok hput
  | switch index keys hits defaultHits =>
      rw [change, Line.edit]
      cases Switch.make? index keys hits defaultHits with
      | error e => exact .error rfl
      | ok s =>
          have hput : { l with switches := putByScan s l.switches } = l.setSwitch s := by
            rw [h.switches.putByScan_eq_put, setSwitch]
          exact .ok hput

theorem changes_agree (h : l.WellFormed) (edits : List Edit) :
    Agrees Eq (edits.forM change l) ((l.apply edits).1, outcome (l.apply edits).2) := by
  induction edits generalizing l with
  | nil => exact .ok rfl
  | cons edit edits ih =>
      have hedit := change_agrees h edit
      rw [apply]
      cases hl : l.edit edit with
      | ok l' =>
          rw [hl] at hedit
          refine hedit.bind_ok fun m hm => ?_
          subst hm
          exact ih (h.edit hl)
      | error e =>
          rw [hl] at hedit
          exact hedit.bind_error

/-- What comes of merging a line into another. -/
theorem absorb_eq (other l : Line) :
    absorb other l = .ok () { l with
      hits := l.hits + other.hits
      method := l.method <|> other.method
      jumps := absorbByScan Jump.merge l.jumps other.jumps
      switches := absorbByScan Switch.merge l.switches other.switches } := by
  obtain ⟨number, hits, method, jumps, switches⟩ := l
  cases method with
  | none => rfl
  | some m => rfl

theorem absorb_agrees {other : Line} (h : l.WellFormed) (hother : other.WellFormed) :
    Agrees Eq (absorb other l) (l.merge other, .ok ()) := by
  rw [absorb_eq, absorbByScan_eq_merge Jump.keepsKey_merge h.jumps hother.jumps.nodup_keys,
    absorbByScan_eq_merge Switch.keepsKey_merge h.switches hother.switches.nodup_keys]
  exact .ok rfl

end Line

/-! ## Classes -/

/-- A class held as an object shows `c`: it has its name and finds each line under its number. -/
structure KeyedClass.Shows (k : KeyedClass) (c : Class) : Prop where
  wellFormed : c.WellFormed
  name_eq : k.name = c.name
  line : ∀ number, k.lines.get? number = c.line? number

namespace KeyedClass

variable {k k₂ : KeyedClass} {c c₂ : Class}

theorem Shows.new (name : String) : ({ name } : KeyedClass).Shows { name } where
  wellFormed := Class.WellFormed.new name
  name_eq := rfl
  line _ := rfl

theorem Shows.store (h : k.Shows c) {l : Line} (hl : l.WellFormed) :
    (k.store l.number l).Shows (c.putLine l) where
  wellFormed := h.wellFormed.putLine hl
  name_eq := h.name_eq
  line number := by
    rw [KeyedClass.store, Dictionary.get?_set, Class.line?, Class.putLine, find?_put, h.line]
    rfl

/-- What comes of asking for a line. -/
theorem getLine_eq (number : Int) (method : Option String) (k : KeyedClass) :
    getLine number method k =
      match k.lines.get? number with
      | some l => .ok l k
      | none =>
        if number < 1 then .error (.linePosition number k.name) k
        else .ok { number, method } (k.store number { number, method }) := by
  rw [getLine, Call.get_bind]
  cases k.lines.get? number with
  | some l => rfl
  | none =>
      by_cases hpos : number < 1
      · simp only [if_pos hpos]
        rfl
      · simp only [if_neg hpos]
        rfl

theorem getLine_agrees (h : k.Shows c) (number : Int) (method : Option String) :
    Agrees Shows (getLine number method k)
      (match c.lineOrNew number method with
        | .ok l => (c.putLine l, .ok l)
        | .error e => (c, .error e)) := by
  rw [getLine_eq, Class.lineOrNew, h.line, h.name_eq]
  cases hl : c.line? number with
  | some l =>
      have hnumber : l.number = number := key_of_find? hl
      have hput : c.putLine l = c := h.wellFormed.putLine_eq_self (hnumber ▸ hl)
      exact .ok (hput.symm ▸ h)
  | none =>
      by_cases hpos : number < 1
      · simp only [if_pos hpos]
        exact .error h
      · simp only [if_neg hpos]
        exact .ok (h.store (Line.WellFormed.new (Int.not_lt.mp hpos) method))

theorem addLine_agrees (h : k.Shows c) (plan : LinePlan) :
    Agrees Shows (addLine plan k)
      ((c.applyLine plan).1, outcome (c.applyLine plan).2) := by
  have hget := getLine_agrees h plan.number plan.method
  rw [Class.applyLine]
  cases hl : c.lineOrNew plan.number plan.method with
  | error e =>
      rw [hl] at hget
      exact hget.bind_error
  | ok l =>
      rw [hl] at hget
      have hline : l.WellFormed := h.wellFormed.of_lineOrNew hl
      refine hget.bind_ok fun k' hk' => ?_
      refine (Line.changes_agree hline plan.edits).callOn fun l' hl' => ?_
      subst hl'
      have hstore := hk'.store (hline.apply plan.edits)
      rw [Class.putLine_putLine h.wellFormed (Line.number_apply l plan.edits)] at hstore
      rwa [Line.number_apply, Class.number_of_lineOrNew hl] at hstore

/-- Filling a class makes what building it makes, or is refused for the same reason. -/
theorem fill_makes (h : k.Shows c) (plans : List LinePlan) :
    Makes Shows (fill plans k) (c.build? plans) := by
  induction plans generalizing k c with
  | nil => exact .ok h
  | cons plan plans ih =>
      have hadd := addLine_agrees h plan
      rw [Class.build?]
      generalize c.applyLine plan = built at hadd
      obtain ⟨c', refused⟩ := built
      cases refused with
      | none => exact hadd.bind_makes fun k' hk' => ih hk'
      | some e => exact hadd.bind_refused

theorem absorbLine_agrees (h : k.Shows c) {l : Line} (hl : l.WellFormed) :
    Agrees Shows (absorbLine l.number l k) (c.mergeLine l, .ok ()) := by
  rw [Class.mergeLine, ← h.wellFormed.ascending.put_elim Line.keepsKey_merge, absorbLine, Call.get_bind, h.line]
  have hkey : find? (key l) c.lines = c.line? l.number := rfl
  rw [hkey]
  cases hmine : c.line? l.number with
  | none => exact .ok (h.store hl)
  | some mine =>
      have hwf : mine.WellFormed := h.wellFormed.of_line? hmine
      have hnumber : mine.number = l.number := key_of_find? hmine
      refine (Line.absorb_agrees hwf hl).callOn fun l' hl' => ?_
      subst hl'
      have hstore := h.store (hwf.merge hl)
      rwa [Line.number_merge, hnumber] at hstore

theorem absorb_agrees (h : k.Shows c) (h₂ : k₂.Shows c₂) :
    Agrees Shows (absorb k₂ k) (c.merge c₂, .ok ()) := by
  have hrel : ∀ number, Option.Rel (fun l m => l = m ∧ m.WellFormed) (k₂.lines.get? number)
      (find? number c₂.lines) := by
    intro number
    have hline := h₂.line number
    rw [Class.line?] at hline
    rw [hline]
    cases hm : find? number c₂.lines with
    | none => exact .none
    | some m => exact .some ⟨rfl, h₂.wellFormed.of_line? hm⟩
  obtain ⟨ls, hperm, hls⟩ :=
    Dictionary.exists_perm h₂.wellFormed.ascending.nodup_keys hrel
  rw [← h.wellFormed.foldl_mergeLine h₂.wellFormed hperm]
  refine Agrees.forM (M := fun e l => e.1 = l.number ∧ e.2 = l ∧ l.WellFormed) ?_ hls h
  rintro ⟨number, m⟩ l k c ⟨hnumber, hm, hl⟩ hk
  obtain rfl : m = l := hm
  obtain rfl : number = m.number := hnumber
  exact absorbLine_agrees hk hl

/-- Gone through in order, a class is the one that it shows. -/
theorem Shows.shown_eq (h : k.Shows c) : k.shown = c := by
  have hlines : k.lines.values = c.lines := by
    rw [← List.map_id k.lines.values]
    exact Dictionary.map_values_eq h.wellFormed.ascending fun number => by
      rw [h.line, Option.map_id_apply, Class.line?]
  rw [shown, hlines, h.name_eq]

end KeyedClass

/-! ## Projects -/

/-- A class is joined to an empty one without a change. -/
theorem Class.WellFormed.new_merge {c : Class} (h : c.WellFormed) :
    ({ name := c.name } : Class).merge c = c := by
  have hlines : Shelf.merge Line.merge [] c.lines = c.lines :=
    nil_merge Line.keepsKey_merge h.ascending
  rw [Class.merge, hlines]

/-- Joining a class to the one of its name is putting the merge of both. -/
theorem Project.WellFormed.putClass_merge {p : Project} (hp : p.WellFormed) {c : Class}
    (hc : c.WellFormed) : p.putClass ((p.classOrNew c.name).merge c) = p.mergeClass c := by
  have hput := hp.ascending.put_elim Class.keepsKey_merge c
  have hfound : find? (key c) p.classes = p.class? c.name := rfl
  have hmerge : (p.classOrNew c.name).merge c = (p.class? c.name).elim c fun mine => mine.merge c := by
    rw [Project.classOrNew]
    cases p.class? c.name with
    | none => exact hc.new_merge
    | some mine => rfl
  rw [hfound] at hput
  rw [Project.putClass, hmerge, hput, mergeClass]

/-- A project is merged class by class, in any order of the classes. -/
theorem Project.WellFormed.foldl_mergeClass {p q : Project} (hp : p.WellFormed) (hq : q.WellFormed)
    {cs : List Class} (h : cs.Perm q.classes) : cs.foldl Project.mergeClass p = p.merge q := by
  have hfold : ∀ (cs : List Class) (p : Project),
      cs.foldl Project.mergeClass p =
        { p with classes := Shelf.merge Class.merge p.classes cs } := by
    intro cs
    induction cs with
    | nil => exact fun _ => rfl
    | cons c cs ih => exact fun p => ih (p.mergeClass c)
  rw [hfold, hp.ascending.merge_perm Class.keepsKey_merge hq.ascending h, Project.merge]

/-- A project held as an object shows `p`: under each name it finds a class that shows the one of
this name. -/
structure KeyedProject.Shows (k : KeyedProject) (p : Project) : Prop where
  wellFormed : p.WellFormed
  class_rel : ∀ name, Option.Rel KeyedClass.Shows (k.classes.get? name) (p.class? name)

namespace KeyedProject

variable {k k₂ : KeyedProject} {p p₂ : Project}

theorem Shows.empty : KeyedProject.empty.Shows .empty where
  wellFormed := Project.WellFormed.empty
  class_rel _ := .none

theorem Shows.store (h : k.Shows p) {kc : KeyedClass} {c : Class} (hc : kc.Shows c) :
    (k.store c.name kc).Shows (p.putClass c) where
  wellFormed := h.wellFormed.putClass hc.wellFormed
  class_rel name := by
    have hkey : key c = c.name := rfl
    rw [KeyedProject.store, Dictionary.get?_set, Project.class?, Project.putClass, find?_put, hkey]
    by_cases hname : c.name = name
    · rw [if_pos hname, if_pos hname]
      exact .some hc
    · rw [if_neg hname, if_neg hname]
      exact h.class_rel name

theorem Shows.classOrNew (h : k.Shows p) (name : String) :
    (k.classOrNew name).Shows (p.classOrNew name) := by
  have hrel := h.class_rel name
  rw [KeyedProject.classOrNew, Project.classOrNew]
  generalize k.classes.get? name = x, p.class? name = y at hrel
  cases hrel with
  | none => exact .new name
  | some hc => exact hc

/-- Asking for a class stores it under the name, also where it is there. -/
theorem getClass_eq (name : String) (k : KeyedProject) :
    getClass name k = .ok (k.classOrNew name) (k.store name (k.classOrNew name)) := by
  rw [getClass, Call.get_bind, classOrNew]
  cases hc : k.classes.get? name with
  | none => rfl
  | some c =>
      have hstore : k.store name c = k := by rw [store, Dictionary.set_eq_self hc]
      rw [Option.getD_some, hstore]
      rfl

/-- A call on a class leaves it under the name, also where the call is refused. -/
theorem onClass_eq {α : Type} (name : String) (call : Call KeyedClass α) (k : KeyedProject) :
    onClass name call k = callOn (k.classOrNew name) (store name) call k := by
  have hstore : ∀ c d : KeyedClass, (k.store name c).store name d = k.store name d :=
    fun c d => by rw [store, store, store, Dictionary.set_set]
  rw [onClass, Call.bind_eq, getClass_eq]
  simp only [callOn, hstore]

theorem onClass_agrees {α : Type} (h : k.Shows p) {name : String} {call : Call KeyedClass α}
    {c : Class} {x : Except TreeError α}
    (hcall : Agrees KeyedClass.Shows (call (k.classOrNew name)) (c, x)) (hname : c.name = name) :
    Agrees Shows (onClass name call k) (p.putClass c, x) := by
  subst hname
  rw [onClass_eq]
  exact hcall.callOn fun kc hkc => h.store hkc

theorem addClass_agrees (h : k.Shows p) {kc : KeyedClass} {c : Class} (hc : kc.Shows c) :
    Agrees Shows (addClass kc k)
      (match p.addClass c with
        | .ok p' => (p', .ok ())
        | .error e => (p, .error e)) := by
  have hrel := h.class_rel c.name
  rw [addClass, Call.get_bind, Project.addClass, hc.name_eq]
  generalize k.classes.get? c.name = x, p.class? c.name = y at hrel
  cases hrel with
  | none => exact .ok (h.store hc)
  | some _ => exact .error h

/-- Filling a project makes what building it makes, or is refused for the same reason. -/
theorem fill_makes (h : k.Shows p) (plans : List ClassPlan) :
    Makes Shows (fill plans k) (p.build? plans) := by
  induction plans generalizing k p with
  | nil => exact .ok h
  | cons plan plans ih =>
      have hfill := KeyedClass.fill_makes (h.classOrNew plan.name) plan.lines
      have hcons : fill (plan :: plans) k =
          (onClass plan.name (KeyedClass.fill plan.lines) >>= fun _ => fill plans) k := rfl
      rw [hcons, Call.bind_eq, onClass_eq, callOn, Project.build?]
      generalize KeyedClass.fill plan.lines (k.classOrNew plan.name) = r at hfill
      cases hb : (p.classOrNew plan.name).build? plan.lines with
      | error e =>
          rw [hb] at hfill
          cases hfill with
          | error => exact .error
      | ok c =>
          rw [hb] at hfill
          cases hfill with
          | ok hc =>
              have hname : c.name = plan.name :=
                (Class.name_of_build? hb).trans (p.name_classOrNew plan.name)
              exact ih (hname ▸ h.store hc)

theorem absorbClass_agrees (h : k.Shows p) {kc : KeyedClass} {c : Class} (hc : kc.Shows c) :
    Agrees Shows (onClass c.name (KeyedClass.absorb kc) k) (p.mergeClass c, .ok ()) := by
  rw [← h.wellFormed.putClass_merge hc.wellFormed]
  exact onClass_agrees h (KeyedClass.absorb_agrees (h.classOrNew c.name) hc)
    (p.name_classOrNew c.name)

theorem absorb_agrees (h : k.Shows p) (h₂ : k₂.Shows p₂) :
    Agrees Shows (absorb k₂ k) (p.merge p₂, .ok ()) := by
  obtain ⟨cs, hperm, hcs⟩ :=
    Dictionary.exists_perm h₂.wellFormed.ascending.nodup_keys h₂.class_rel
  rw [← h.wellFormed.foldl_mergeClass h₂.wellFormed hperm]
  refine Agrees.forM (M := fun e c => e.1 = c.name ∧ e.2.Shows c) ?_ hcs h
  rintro ⟨name, kc⟩ c k p ⟨hname, hc⟩ hk
  obtain rfl : name = c.name := hname
  exact absorbClass_agrees hk hc

theorem Shows.select (h : k.Shows p) (f : ClassFilter) : (k.select f).Shows (p.select f) where
  wellFormed := h.wellFormed.filter f.allow
  class_rel name := by
    have hfound : (p.select f).class? name = if f.allow name then p.class? name else none :=
      find?_filter f.allow name p.classes
    rw [KeyedProject.select, Dictionary.get?_filter, hfound]
    split
    · exact h.class_rel name
    · exact .none

/-- Gone through in order, a project is the one that it shows. -/
theorem Shows.shown_eq (h : k.Shows p) : k.shown = p := by
  have hclasses : k.classes.values.map KeyedClass.shown = p.classes := by
    refine Dictionary.map_values_eq h.wellFormed.ascending fun name => ?_
    have hrel := h.class_rel name
    rw [Project.class?] at hrel
    generalize k.classes.get? name = x, find? name p.classes = y at hrel ⊢
    cases hrel with
    | none => rfl
    | some hc => exact congrArg some hc.shown_eq
  rw [shown, hclasses]

end KeyedProject

/-! ## The form of stored objects -/

/-- The form of every project that calls make. -/
structure KeyedProject.Invariant (k : KeyedProject) : Prop where
  /-- Each class is stored under its own name. -/
  classes : ∀ e ∈ k.classes.entries, e.2.name = e.1
  /-- Each line is stored under its own number. -/
  lines : ∀ e ∈ k.classes.entries, ∀ x ∈ e.2.lines.entries, x.2.number = x.1
  /-- Line numbers start at one. -/
  number_pos : ∀ e ∈ k.classes.entries, ∀ x ∈ e.2.lines.entries, 1 ≤ x.2.number
  /-- Jumps are strictly ascending by index. -/
  jumps : ∀ e ∈ k.classes.entries, ∀ x ∈ e.2.lines.entries,
    x.2.jumps.Pairwise fun i j => i.index < j.index
  /-- Switches are strictly ascending by index. -/
  switches : ∀ e ∈ k.classes.entries, ∀ x ∈ e.2.lines.entries,
    x.2.switches.Pairwise fun s t => s.index < t.index
  /-- Every switch has as many counts as keys. -/
  even : ∀ e ∈ k.classes.entries, ∀ x ∈ e.2.lines.entries, ∀ s ∈ x.2.switches,
    s.keys.length = s.hits.length

namespace KeyedProject

variable {k : KeyedProject} {p : Project}

/-- What is stored under a name shows the class of this name. -/
theorem Shows.of_mem (h : k.Shows p) {e : String × KeyedClass} (he : e ∈ k.classes.entries) :
    ∃ c, p.class? e.1 = some c ∧ e.2.Shows c := by
  have hrel := h.class_rel e.1
  rw [Dictionary.get?_eq_some_iff.mpr he] at hrel
  generalize hc : p.class? e.1 = y at hrel
  cases hrel with
  | some hshows => exact ⟨_, rfl, hshows⟩

/-- What is stored under a number is the line of this number, and well-formed. -/
theorem Shows.line_of_mem (h : k.Shows p) {e : String × KeyedClass} (he : e ∈ k.classes.entries)
    {x : Int × Line} (hx : x ∈ e.2.lines.entries) : x.2.number = x.1 ∧ x.2.WellFormed := by
  obtain ⟨c, -, hc⟩ := h.of_mem he
  have hline : c.line? x.1 = some x.2 := by
    rw [← hc.line]
    exact Dictionary.get?_eq_some_iff.mpr hx
  exact ⟨key_of_find? hline, hc.wellFormed.of_line? hline⟩

theorem Shows.invariant (h : k.Shows p) : k.Invariant where
  classes e he := by
    obtain ⟨c, hfound, hc⟩ := h.of_mem he
    exact hc.name_eq.trans (key_of_find? hfound)
  lines e he x hx := (h.line_of_mem he hx).1
  number_pos e he x hx := (h.line_of_mem he hx).2.number_pos
  jumps e he x hx := (h.line_of_mem he hx).2.jumps
  switches e he x hx := (h.line_of_mem he hx).2.switches
  even e he x hx := (h.line_of_mem he hx).2.even

end KeyedProject

end CoverageDiff
