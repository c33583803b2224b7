import CoverageDiff.Proofs.KeyedSession
import CoverageDiff.Proofs.View

/-!
# CoverageDiff.Proofs.Refusal

Calls that are refused, and the form of all that calls make.

1. On an object each call is refused for one reason, and leaves the object as
   it was: `KeyedClass.getLine_eq_error_iff`, `Line.change_eq_error_iff`,
   `KeyedProject.addClass_eq_error_iff`.
2. In a session `Step.Call` are the steps that make one call on a class or
   line that is there, and `Step.Refuses` says which of them are refused and
   why, one constructor for each reason.  A refused one leaves the session as
   it was (`KeyedSession.step_eq_error_iff`).
3. `KeyedSession.invariant_after` is the main statement: after any steps every
   project has the form `KeyedProject.Invariant` and shows the project of the
   session without objects, and 1 and 2 hold.
-/

namespace CoverageDiff

open CoverageDiff.Shelf

/-! ## Operations on trees -/

/-- A line is refused exactly if it is missing and its number is below one. -/
theorem Class.lineOrNew_eq_error_iff {c : Class} {number : Int} {method : Option String}
    {e : TreeError} :
    c.lineOrNew number method = .error e ↔
      c.line? number = none ∧ number < 1 ∧ e = .linePosition number c.name := by
  unfold Class.lineOrNew
  cases hl : c.line? number with
  | some l => simp
  | none =>
      by_cases hpos : number < 1
      · simp [hpos, eq_comm]
      · simp [hpos]

/-- An edit is refused exactly if it sets a switch with keys and counts of different number. -/
theorem Line.edit_eq_error_iff {l : Line} {edit : Edit} {e : TreeError} :
    l.edit edit = .error e ↔
      ∃ index keys hits defaultHits, edit = .switch index keys hits defaultHits ∧
        keys.length ≠ hits.length ∧ e = .unevenSwitch keys.length hits.length := by
  cases edit with
  | hits n => simp [Line.edit]
  | jump j => simp [Line.edit]
  | switch index keys hits defaultHits =>
      by_cases hlen : keys.length = hits.length
      · simp [Line.edit, Switch.make?, hlen]
      · simp [Line.edit, Switch.make?, hlen, TreeError.ofUneven, eq_comm]

/-! ## Calls on objects -/

/-- A line is refused exactly if it is missing and its number is below one; the class stays. -/
theorem KeyedClass.getLine_eq_error_iff {c c' : KeyedClass} {number : Int}
    {method : Option String} {e : TreeError} :
    getLine number method c = .error e c' ↔
      c.lines.get? number = none ∧ number < 1 ∧ e = .linePosition number c.name ∧ c' = c := by
  rw [getLine_eq]
  cases c.lines.get? number with
  | some l => simp
  | none =>
      by_cases hpos : number < 1
      · simp [hpos, eq_comm]
      · simp [hpos]

/-- An edit is refused exactly if it sets a switch with keys and counts of different number; the
line stays. -/
theorem Line.change_eq_error_iff {l l' : Line} {edit : Edit} {e : TreeError} :
    change edit l = .error e l' ↔
      (∃ index keys hits defaultHits, edit = .switch index keys hits defaultHits ∧
        keys.length ≠ hits.length ∧ e = .unevenSwitch keys.length hits.length) ∧ l' = l := by
  cases edit with
  | hits n => simp [change, Call.modify_eq]
  | jump j => simp [change, Call.modify_eq]
  | switch index keys hits defaultHits =>
      by_cases hlen : keys.length = hits.length
      · simp [change, Switch.make?, hlen, Call.modify_eq]
      · simp [change, Switch.make?, hlen, Call.throw_eq, TreeError.ofUneven, eq_comm]

/-- A class is refused exactly if its name is taken; the project stays. -/
theorem KeyedProject.addClass_eq_error_iff {p p' : KeyedProject} {c : KeyedClass} {e : TreeError} :
    addClass c p = .error e p' ↔
      (p.classes.get? c.name).isSome ∧ e = .duplicateClass c.name ∧ p' = p := by
  rw [addClass, Call.get_bind]
  by_cases htaken : (p.classes.get? c.name).isSome
  · simp [htaken, Call.bind_eq, Call.throw_eq, eq_comm]
  · simp [htaken, Call.modify_eq]

/-! ## Calls put together -/

/-- A planned line is refused if the line is, or where it is there one of the edits. -/
theorem KeyedClass.addLine_eq_error_iff {c c' : KeyedClass} {plan : LinePlan} {e : TreeError} :
    addLine plan c = .error e c' ↔
      getLine plan.number plan.method c = .error e c' ∨
        ∃ l c₁, getLine plan.number plan.method c = .ok l c₁ ∧
          ∃ l', plan.edits.forM Line.change l = .error e l' ∧ c' = c₁.store plan.number l' := by
  simp only [addLine, Call.bind_eq_error_iff, Call.callOn_eq_error_iff]

/-! ## Calls that are never refused -/

theorem Line.neverRefused_absorb (other : Line) : NeverRefused (absorb other) := by
  intro l e l'
  simp [absorb_eq]

theorem KeyedClass.neverRefused_absorb (other : KeyedClass) : NeverRefused (absorb other) := by
  refine .forM (fun e c e' c' => ?_) _
  rw [absorbLine, Call.get_bind]
  cases c.lines.get? e.1 with
  | none => simp [Call.modify_eq]
  | some mine => exact (Line.neverRefused_absorb e.2).callOn c e' c'

theorem KeyedProject.neverRefused_onClass {α : Type} (name : String) {call : Call KeyedClass α}
    (h : NeverRefused call) : NeverRefused (onClass name call) := by
  intro p e p'
  rw [onClass_eq]
  exact h.callOn p e p'

theorem KeyedProject.neverRefused_absorb (other : KeyedProject) : NeverRefused (absorb other) := by
  refine .forM (fun e => ?_) _
  exact neverRefused_onClass e.1 (KeyedClass.neverRefused_absorb e.2)

/-! ## Sessions -/

namespace KeyedSession

/-- The class at a path, if there is one. -/
def class? (s : KeyedSession) (target : ClassPath) : Option KeyedClass :=
  (s.project target.project).classes.get? target.className

/-- The line at a path, if there is one. -/
def line? (s : KeyedSession) (target : LinePath) : Option Line :=
  (s.class? target.toClassPath).bind fun c => c.lines.get? target.line

/-- The session with a class stored at a path. -/
def putClass (s : KeyedSession) (target : ClassPath) (c : KeyedClass) : KeyedSession :=
  s.store target.project ((s.project target.project).store target.className c)

variable {s : KeyedSession}

/-- Storing again a project that holds a class leaves the session. -/
theorem store_project_eq_self (target : ClassPath) (hc : (s.class? target).isSome) :
    s.store target.project (s.project target.project) = s := by
  have hproject : s.projects.get? target.project = some (s.project target.project) := by
    rw [class?, project] at hc
    rw [project]
    cases hp : s.projects.get? target.project with
    | none =>
        rw [hp] at hc
        cases hc
    | some p => rfl
  rw [store, Dictionary.set_eq_self hproject]

/-- Storing again the class that is at a path leaves the session. -/
theorem putClass_eq_self {target : ClassPath} {c : KeyedClass} (hc : s.class? target = some c) :
    s.putClass target c = s := by
  have hstore : (s.project target.project).store target.className c = s.project target.project := by
    rw [KeyedProject.store, Dictionary.set_eq_self hc]
  rw [putClass, hstore, store_project_eq_self target (Option.isSome_iff_exists.mpr ⟨c, hc⟩)]

theorem neverRefused_onProject {α : Type} (name : String) {call : Call KeyedProject α}
    (h : NeverRefused call) : NeverRefused (onProject name call) := by
  intro s e s'
  rw [onProject, Call.get_bind]
  exact (h.adaptExcept StepError.tree).callOn s e s'

theorem neverRefused_onClass {α : Type} (target : ClassPath) {call : Call KeyedClass α}
    (h : NeverRefused call) : NeverRefused (onClass target call) :=
  neverRefused_onProject _ (KeyedProject.neverRefused_onClass _ h)

/-- What comes of a call on a class that is there. -/
theorem onClass_eq {α : Type} {target : ClassPath} {c : KeyedClass} (hc : s.class? target = some c)
    (call : Call KeyedClass α) :
    onClass target call s =
      match call c with
      | .ok a c' => .ok a (s.putClass target c')
      | .error e c' => .error (.tree e) (s.putClass target c') := by
  have hnew : (s.project target.project).classOrNew target.className = c := by
    rw [class?] at hc
    rw [KeyedProject.classOrNew, hc, Option.getD_some]
  rw [onClass, onProject, Call.get_bind, callOn, EStateM.adaptExcept, KeyedProject.onClass_eq, hnew,
    callOn]
  cases call c with
  | ok a c' => rfl
  | error e c' => rfl

/-- Asking for a line that is there gives it and leaves the session. -/
theorem getLine_of_line? {target : LinePath} {l : Line} (hl : s.line? target = some l) :
    getLine target s = .ok l s := by
  obtain ⟨c, hc, hline⟩ := Option.bind_eq_some_iff.mp hl
  rw [getLine, onClass_eq hc, KeyedClass.getLine_eq, hline]
  simp only [putClass_eq_self hc]

end KeyedSession

/-! ## Refused calls -/

/-- A step that makes one call, on a class or line that the session has. -/
inductive Step.Call (s : KeyedSession) : Step → Prop
  /-- Ask for a class. -/
  | getClass (target : ClassPath) : Call s (.getClass target)
  /-- Add a class that was filled before. -/
  | addClass (project : String) (plan : ClassPlan) : Call s (.addClass project plan)
  /-- Ask for a line of a class. -/
  | getLine {target : LinePath} (method : Option String)
      (hc : (s.class? target.toClassPath).isSome) :
      Call s (.editLine target.toClassPath { number := target.line, method })
  /-- Make one edit of a line. -/
  | edit {target : LinePath} (edit : Edit) (hl : (s.line? target).isSome) :
      Call s (.editLine target.toClassPath { number := target.line, edits := [edit] })
  /-- Merge a line into another. -/
  | mergeLine {target source : LinePath} (ht : (s.line? target).isSome)
      (hs : (s.line? source).isSome) : Call s (.mergeLine target source)
  /-- Merge a class into another. -/
  | mergeClass (target source : ClassPath) : Call s (.mergeClass target source)
  /-- Merge a project into another. -/
  | merge (project source : String) : Call s (.merge project source)
  /-- Make a filtered copy of a project. -/
  | filter (project into : String) (plan : FilterPlan) : Call s (.filter project into plan)

/-- Why a call is refused. -/
inductive Step.Refuses (s : KeyedSession) : Step → StepError → Prop
  /-- A line that is missing is asked for by a number below one. -/
  | linePosition {target : LinePath} {method : Option String} {c : KeyedClass}
      (hc : s.class? target.toClassPath = some c) (hl : s.line? target = none)
      (hpos : target.line < 1) :
      Refuses s (.editLine target.toClassPath { number := target.line, method })
        (.tree (.linePosition target.line c.name))
  /-- A switch is set with keys and counts of different number. -/
  | unevenSwitch {target : LinePath} {index : Int} {keys hits : List Int} {defaultHits : Int}
      (hl : (s.line? target).isSome) (hlen : keys.length ≠ hits.length) :
      Refuses s
        (.editLine target.toClassPath
          { number := target.line, edits := [.switch index keys hits defaultHits] })
        (.tree (.unevenSwitch keys.length hits.length))
  /-- The class to be added could not be filled. -/
  | unfilledClass {project : String} {plan : ClassPlan} {e : TreeError} {c : KeyedClass}
      (hfill : KeyedClass.fill plan.lines { name := plan.name } = .error e c) :
      Refuses s (.addClass project plan) (.tree e)
  /-- The name of the class to be added is taken. -/
  | duplicateClass {project : String} {plan : ClassPlan} {c : KeyedClass}
      (hfill : KeyedClass.fill plan.lines { name := plan.name } = .ok () c)
      (hc : (s.class? ⟨project, c.name⟩).isSome) :
      Refuses s (.addClass project plan) (.tree (.duplicateClass c.name))
  /-- A pattern of the filter cannot be read. -/
  | filter {project into : String} {plan : FilterPlan} {e : FilterError}
      (hplan : ClassFilter.ofPlan? plan = .error e) :
      Refuses s (.filter project into plan) (.filter e)

namespace KeyedSession

variable {s s' : KeyedSession} {e : StepError}

/-- A call on a class that is there is refused as it is on the class alone. -/
theorem onClass_eq_error_iff {α : Type} {target : ClassPath} {c : KeyedClass}
    (hc : s.class? target = some c) {call : Call KeyedClass α} :
    onClass target call s = .error e s' ↔
      ∃ e' c', call c = .error e' c' ∧ e = .tree e' ∧ s' = s.putClass target c' := by
  rw [onClass_eq hc]
  cases call c <;> simp [eq_comm]

theorem step_getLine_eq_error_iff {target : ClassPath} {c : KeyedClass}
    (hc : s.class? target = some c) (number : Int) (method : Option String) :
    step (.editLine target { number, method }) s = .error e s' ↔
      (c.lines.get? number = none ∧ number < 1 ∧ e = .tree (.linePosition number c.name)) ∧
        s' = s := by
  have hnil : ∀ (l l' : Line) (e : TreeError),
      ([] : List Edit).forM Line.change l ≠ .error e l' := by
    intro l l' e h
    cases h
  rw [step, onClass_eq_error_iff hc]
  simp only [KeyedClass.addLine_eq_error_iff, KeyedClass.getLine_eq_error_iff, hnil, false_and,
    exists_false, and_false, or_false]
  constructor
  · rintro ⟨e', c', ⟨hnone, hpos, rfl, rfl⟩, rfl, rfl⟩
    exact ⟨⟨hnone, hpos, rfl⟩, putClass_eq_self hc⟩
  · rintro ⟨⟨hnone, hpos, rfl⟩, rfl⟩
    exact ⟨_, c, ⟨hnone, hpos, rfl, rfl⟩, rfl, (putClass_eq_self hc).symm⟩

theorem step_edit_eq_error_iff {target : ClassPath} {c : KeyedClass}
    (hc : s.class? target = some c) {number : Int} {l : Line} (hl : c.lines.get? number = some l)
    (edit : Edit) :
    step (.editLine target { number, edits := [edit] }) s = .error e s' ↔
      (∃ index keys hits defaultHits, edit = .switch index keys hits defaultHits ∧
        keys.length ≠ hits.length ∧ e = .tree (.unevenSwitch keys.length hits.length)) ∧
        s' = s := by
  have hget : KeyedClass.getLine number none c = .ok l c := by
    rw [KeyedClass.getLine_eq, hl]
  have hstore : c.store number l = c := by
    rw [KeyedClass.store, Dictionary.set_eq_self hl]
  have hadd : ∀ e' c', KeyedClass.addLine { number, edits := [edit] } c = .error e' c' ↔
      ∃ l', Line.change edit l = .error e' l' ∧ c' = c.store number l' := by
    intro e' c'
    rw [KeyedClass.addLine_eq_error_iff, hget]
    simp
  rw [step, onClass_eq_error_iff hc]
  simp only [hadd, Line.change_eq_error_iff]
  constructor
  · rintro ⟨e', c', ⟨l', ⟨⟨index, keys, hits, defaultHits, rfl, hlen, rfl⟩, rfl⟩, rfl⟩, rfl, rfl⟩
    refine ⟨⟨index, keys, hits, defaultHits, rfl, hlen, rfl⟩, ?_⟩
    rw [hstore, putClass_eq_self hc]
  · rintro ⟨⟨index, keys, hits, defaultHits, rfl, hlen, rfl⟩, rfl⟩
    exact ⟨_, c, ⟨l, ⟨⟨index, keys, hits, defaultHits, rfl, hlen, rfl⟩, rfl⟩, hstore.symm⟩, rfl,
      (putClass_eq_self hc).symm⟩

theorem onProject_eq_error_iff {α : Type} {name : String} {call : Call KeyedProject α} :
    onProject name call s = .error e s' ↔
      ∃ e' p, call (s.project name) = .error e' p ∧ e = .tree e' ∧ s' = s.store name p := by
  rw [onProject, Call.get_bind, Call.callOn_eq_error_iff, EStateM.adaptExcept]
  cases call (s.project name) <;> simp [eq_comm]

theorem step_addClass_eq_error_iff {name : String} {plan : ClassPlan} :
    step (.addClass name plan) s = .error e s' ↔
      ((∃ e' c, KeyedClass.fill plan.lines { name := plan.name } = .error e' c ∧ e = .tree e') ∨
        ∃ c, KeyedClass.fill plan.lines { name := plan.name } = .ok () c ∧
          (s.class? ⟨name, c.name⟩).isSome ∧ e = .tree (.duplicateClass c.name)) ∧ s' = s := by
  rw [step, Call.bind_eq, made, EStateM.adaptExcept]
  cases hfill : KeyedClass.fill plan.lines { name := plan.name } with
  | error e' c =>
      constructor
      · rintro ⟨⟩
        exact ⟨.inl ⟨e', c, rfl, rfl⟩, rfl⟩
      · rintro ⟨⟨_, _, ⟨⟩, rfl⟩ | ⟨_, ⟨⟩, -, -⟩, rfl⟩
        rfl
  | ok _ c =>
      simp only [onProject_eq_error_iff, KeyedProject.addClass_eq_error_iff]
      constructor
      · rintro ⟨_, _, ⟨htaken, rfl, rfl⟩, rfl, rfl⟩
        exact ⟨.inr ⟨c, rfl, htaken, rfl⟩, store_project_eq_self ⟨name, c.name⟩ htaken⟩
      · rintro ⟨⟨_, _, ⟨⟩, rfl⟩ | ⟨_, ⟨⟩, htaken, rfl⟩, rfl⟩
        exact ⟨_, _, ⟨htaken, rfl, rfl⟩, rfl,
          (store_project_eq_self ⟨name, c.name⟩ htaken).symm⟩

/-- Merging lines that are there is not refused. -/
theorem step_mergeLine_ne_error {target source : LinePath} (ht : (s.line? target).isSome)
    (hs : (s.line? source).isSome) : step (.mergeLine target source) s ≠ .error e s' := by
  obtain ⟨l, hl⟩ := Option.isSome_iff_exists.mp ht
  obtain ⟨m, hm⟩ := Option.isSome_iff_exists.mp hs
  rw [step, Call.bind_eq, getLine_of_line? hl]
  simp only []
  rw [Call.bind_eq, getLine_of_line? hm]
  exact neverRefused_onClass _ (Line.neverRefused_absorb m).callOn s e s'

/-- For each of the reasons a call is refused, and the session stays as it was. -/
theorem step_of_refuses {st : Step} (h : st.Refuses s e) : step st s = .error e s := by
  cases h with
  | @linePosition target method c hc hl hpos =>
      rw [line?, hc, Option.bind_some] at hl
      exact (step_getLine_eq_error_iff hc target.line method).mpr ⟨⟨hl, hpos, rfl⟩, rfl⟩
  | @unevenSwitch target index keys hits defaultHits hl hlen =>
      obtain ⟨l, hline⟩ := Option.isSome_iff_exists.mp hl
      obtain ⟨c, hc, hfound⟩ := Option.bind_eq_some_iff.mp hline
      exact (step_edit_eq_error_iff hc hfound _).mpr
        ⟨⟨index, keys, hits, defaultHits, rfl, hlen, rfl⟩, rfl⟩
  | unfilledClass hfill =>
      exact step_addClass_eq_error_iff.mpr ⟨.inl ⟨_, _, hfill, rfl⟩, rfl⟩
  | duplicateClass hfill hc =>
      exact step_addClass_eq_error_iff.mpr ⟨.inr ⟨_, hfill, hc, rfl⟩, rfl⟩
  | filter hplan =>
      rw [step, hplan]
      rfl

/-- **Refusals**: a call is refused exactly for the reasons of `Step.Refuses`, and then leaves the
session as it was. -/
theorem step_eq_error_iff {st : Step} (hcall : st.Call s) :
    step st s = .error e s' ↔ st.Refuses s e ∧ s' = s := by
  constructor
  · intro h
    cases hcall with
    | getClass target => exact absurd h (neverRefused_onClass target (.pure ()) s e s')
    | addClass project plan =>
        obtain ⟨⟨e', c, hfill, rfl⟩ | ⟨c, hfill, hc, rfl⟩, hs⟩ := step_addClass_eq_error_iff.mp h
        · exact ⟨.unfilledClass hfill, hs⟩
        · exact ⟨.duplicateClass hfill hc, hs⟩
    | @getLine target method hc =>
        obtain ⟨c, hclass⟩ := Option.isSome_iff_exists.mp hc
        obtain ⟨⟨hnone, hpos, rfl⟩, hs⟩ := (step_getLine_eq_error_iff hclass _ _).mp h
        have hline : s.line? target = none := by
          rw [line?, hclass, Option.bind_some, hnone]
        exact ⟨.linePosition hclass hline hpos, hs⟩
    | @edit target edit hl =>
        obtain ⟨l, hline⟩ := Option.isSome_iff_exists.mp hl
        obtain ⟨c, hclass, hfound⟩ := Option.bind_eq_some_iff.mp hline
        obtain ⟨⟨index, keys, hits, defaultHits, rfl, hlen, rfl⟩, hs⟩ :=
          (step_edit_eq_error_iff hclass hfound edit).mp h
        exact ⟨.unevenSwitch hl hlen, hs⟩
    | mergeLine ht hs => exact absurd h (step_mergeLine_ne_error ht hs)
    | mergeClass target source =>
        exact absurd h (neverRefused_onClass target (KeyedClass.neverRefused_absorb _) s e s')
    | merge project source =>
        exact absurd h (neverRefused_onProject project (KeyedProject.neverRefused_absorb _) s e s')
    | filter project into plan =>
        rw [step] at h
        cases hplan : ClassFilter.ofPlan? plan with
        | ok f =>
            rw [hplan] at h
            cases h
        | error err =>
            rw [hplan] at h
            cases h
            exact ⟨.filter hplan, rfl⟩
  · rintro ⟨hrefuses, rfl⟩
    exact step_of_refuses hrefuses

end KeyedSession

/-! ## The invariant of all runs -/

/-- **Representation invariant of runs**: after any steps from no projects every project has its
form and shows the project of the session without objects, and a step is refused on the one exactly
if it is on the other.  A call is refused exactly for the reasons of `Step.Refuses`, and a refused
one leaves the session as it was; so do the calls on an object by itself. -/
theorem KeyedSession.invariant_after {steps : List Step} {s : KeyedSession}
    (hs : after .empty steps = s) :
    (∀ name, (s.project name).Invariant ∧
        (s.project name).shown = (Session.after [] steps).project name) ∧
      (∀ st e, (∃ s', step st s = .error e s') ↔
        ((Session.after [] steps).step st).2 = .refused e) ∧
      (∀ st e s', st.Call s → (step st s = .error e s' ↔ st.Refuses s e ∧ s' = s)) ∧
      (∀ (c c' : KeyedClass) number method e,
        KeyedClass.getLine number method c = .error e c' ↔
          c.lines.get? number = none ∧ number < 1 ∧ e = .linePosition number c.name ∧ c' = c) ∧
      (∀ (l l' : Line) edit e, Line.change edit l = .error e l' ↔
        (∃ index keys hits defaultHits, edit = .switch index keys hits defaultHits ∧
          keys.length ≠ hits.length ∧ e = .unevenSwitch keys.length hits.length) ∧ l' = l) ∧
      ∀ (p p' : KeyedProject) c e, KeyedProject.addClass c p = .error e p' ↔
        (p.classes.get? c.name).isSome ∧ e = .duplicateClass c.name ∧ p' = p := by
  have hshows : s.Shows (Session.after [] steps) := hs ▸ Shows.nil.after steps
  refine ⟨fun name => ⟨(hshows name).invariant, (hshows name).shown_eq⟩,
    fun st e => hshows.refused_iff st e, fun st e s' hcall => step_eq_error_iff hcall, ?_, ?_, ?_⟩
  · exact fun c c' number method e => KeyedClass.getLine_eq_error_iff
  · exact fun l l' edit e => Line.change_eq_error_iff
  · exact fun p p' c e => KeyedProject.addClass_eq_error_iff

namespace Sample

/-- Builds the sample `earlier`, and merges a class into one of another name and a line into one of
another number. -/
def steps : List Step :=
  [.build "base" earlier.plans,
    .mergeClass ⟨"base", "org.example.Bar"⟩ ⟨"base", "org.example.Foo"⟩,
    .mergeLine ⟨⟨"base", "org.example.Bar"⟩, 4⟩ ⟨⟨"base", "org.example.Foo"⟩, 3⟩]

/-- The session after these steps. -/
def session : KeyedSession := .after .empty steps

/-- A class of the sample. -/
def fooPath : ClassPath := ⟨"base", "org.example.Foo"⟩

/-- The place of a line with the number zero. -/
def zeroPath : LinePath := { fooPath with line := 0 }

/-- Asks for a line with the number zero. -/
def lineZero : Step :=
  .editLine zeroPath.toClassPath { number := zeroPath.line }

/-- Sets a switch with one key and no count. -/
def unevenEdit : Step :=
  .editLine fooPath { number := 3, edits := [.switch 1 [7] [] 0] }

/-- Adds a class with a name that is taken. -/
def secondFoo : Step :=
  .addClass "base" { name := "org.example.Foo" }

/-- The merges leave every class and line under its own name and number, and these calls are refused
and leave the session. -/
theorem refused_calls :
    (session.class? ⟨"base", "org.example.Bar"⟩).map (fun c => Shelf.keys c.lines.entries) =
        some [10, 3, 5, 4] ∧
      (session.project "base").Invariant ∧
      KeyedSession.step lineZero session =
        .error (.tree (.linePosition 0 "org.example.Foo")) session ∧
      KeyedSession.step unevenEdit session = .error (.tree (.unevenSwitch 1 0)) session ∧
      KeyedSession.step secondFoo session =
        .error (.tree (.duplicateClass "org.example.Foo")) session := by
  have hs : KeyedSession.after .empty steps = session := rfl
  obtain ⟨hprojects, -, hcalls, -⟩ := KeyedSession.invariant_after hs
  have hfoo : (session.class? fooPath).isSome := by decide +kernel
  have hthree : (session.line? { fooPath with line := 3 }).isSome := by decide +kernel
  have hzero : session.line? zeroPath = none := by decide +kernel
  obtain ⟨c, hc⟩ := Option.isSome_iff_exists.mp hfoo
  have hname : c.name = "org.example.Foo" :=
    (hprojects "base").1.classes _ (Dictionary.get?_eq_some_iff.mp hc)
  refine ⟨by decide +kernel, (hprojects "base").1, ?_, ?_, ?_⟩
  · refine (hcalls lineZero _ _ (.getLine none hfoo)).mpr ⟨?_, rfl⟩
    exact hname ▸ .linePosition hc hzero (by decide)
  · refine (hcalls unevenEdit _ _ (.edit _ hthree)).mpr ⟨?_, rfl⟩
    exact .unevenSwitch hthree (by decide)
  · refine (hcalls secondFoo _ _ (.addClass _ _)).mpr ⟨?_, rfl⟩
    exact .duplicateClass (c := { name := "org.example.Foo" }) rfl hfoo

end Sample

end CoverageDiff
