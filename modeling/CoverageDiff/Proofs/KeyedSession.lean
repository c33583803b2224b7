import CoverageDiff.KeyedSession
import CoverageDiff.Proofs.KeyedTree
import CoverageDiff.Proofs.Reachable

/-!
# CoverageDiff.Proofs.KeyedSession

A session on projects held as objects shows the session on the projects
themselves.

`KeyedSession.step_agrees` is the step lemma: a step is refused on the objects
exactly if it is on the projects, for the same reason, and leaves objects that
show what it leaves there.  `KeyedSession.Shows.after` is the run lemma.
-/

namespace CoverageDiff

open CoverageDiff.Shelf

/-- Whether a step was refused, and why. -/
def StepAnswer.outcome : StepAnswer → Except StepError Unit
  | .refused e => .error e
  | _ => .ok ()

theorem StepAnswer.outcome_eq_error_iff {answer : StepAnswer} {e : StepError} :
    answer.outcome = .error e ↔ answer = .refused e := by
  cases answer <;> simp [outcome]

namespace KeyedSession

/-- Each project of a session on objects shows the one of the same name. -/
def Shows (k : KeyedSession) (s : Session) : Prop :=
  ∀ name, (k.project name).Shows (s.project name)

theorem Shows.nil : Shows .empty [] := fun _ => .empty

variable {k : KeyedSession} {s : Session}

theorem project_store (k : KeyedSession) (name : String) (p : KeyedProject) (other : String) :
    (k.store name p).project other = if name = other then p else k.project other := by
  rw [project, store, Dictionary.get?_set]
  split
  · rfl
  · rfl

theorem Shows.store (h : k.Shows s) (name : String) {kp : KeyedProject} {p : Project}
    (hp : kp.Shows p) : (k.store name kp).Shows (s.put name p) := by
  intro other
  rw [project_store, Session.project_put]
  split
  · exact hp
  · exact h other

theorem Shows.classOrNew (h : k.Shows s) (target : ClassPath) :
    ((k.project target.project).classOrNew target.className).Shows (s.classAt target) :=
  (h target.project).classOrNew target.className

theorem onProject_agrees {α : Type} (h : k.Shows s) {name : String} {call : Call KeyedProject α}
    {p : Project} {x : Except TreeError α}
    (hcall : Agrees KeyedProject.Shows (call (k.project name)) (p, x)) :
    Agrees Shows (onProject name call k) (s.put name p, x.mapError .tree) :=
  (hcall.adaptExcept StepError.tree).callOn fun _ hp => h.store name hp

theorem onClass_agrees {α : Type} (h : k.Shows s) {target : ClassPath} {call : Call KeyedClass α}
    {c : Class} {x : Except TreeError α}
    (hcall : Agrees KeyedClass.Shows
      (call ((k.project target.project).classOrNew target.className)) (c, x))
    (hname : c.name = target.className) :
    Agrees Shows (onClass target call k) (s.putClass target.project c, x.mapError .tree) :=
  onProject_agrees h (KeyedProject.onClass_agrees (h target.project) hcall hname)

theorem name_classAt (s : Session) (target : ClassPath) :
    (s.classAt target).name = target.className :=
  (s.project target.project).name_classOrNew target.className

theorem getLine_agrees (h : k.Shows s) (target : LinePath) :
    Agrees Shows (getLine target k) ((s.lineAt target).1, (s.lineAt target).2.mapError .tree) := by
  have hget := KeyedClass.getLine_agrees (h.classOrNew target.toClassPath) target.line none
  have hname := name_classAt s target.toClassPath
  rw [Session.lineAt]
  cases hl : (s.classAt target.toClassPath).lineOrNew target.line none with
  | ok l =>
      rw [hl] at hget
      exact onClass_agrees h hget hname
  | error e =>
      rw [hl] at hget
      exact onClass_agrees h hget hname

/-- A line that is asked for is well-formed and has the number it was asked for by. -/
theorem Shows.line_of_lineAt (h : k.Shows s) {target : LinePath} {s' : Session} {l : Line}
    (hl : s.lineAt target = (s', .ok l)) : l.WellFormed ∧ l.number = target.line := by
  have hc := (h.classOrNew target.toClassPath).wellFormed
  rw [Session.lineAt] at hl
  cases hask : (s.classAt target.toClassPath).lineOrNew target.line none with
  | ok m =>
      rw [hask] at hl
      cases hl
      exact ⟨hc.of_lineOrNew hask, Class.number_of_lineOrNew hask⟩
  | error e =>
      rw [hask] at hl
      cases hl

theorem readLine_agrees (h : k.Shows s) (target : LinePath) {answer : Line → StepAnswer}
    (hanswer : ∀ l, (answer l).outcome = .ok ()) :
    Agrees Shows ((getLine target >>= fun _ => pure ()) k)
      ((s.readLine target answer).1, (s.readLine target answer).2.outcome) := by
  have hget := getLine_agrees h target
  rw [Session.readLine]
  generalize s.lineAt target = asked at hget
  obtain ⟨s', l | l⟩ := asked
  · exact hget.bind_error
  · refine hget.bind_ok fun k' hk' => ?_
    rw [hanswer]
    exact .ok hk'

theorem mergeLine_agrees (h : k.Shows s) (target source : LinePath) :
    Agrees Shows (step (.mergeLine target source) k)
      ((s.step (.mergeLine target source)).1, (s.step (.mergeLine target source)).2.outcome) := by
  have htarget := getLine_agrees h target
  rw [Session.step]
  cases ht : s.lineAt target with
  | mk s₁ asked =>
    rw [ht] at htarget
    cases asked with
    | error e => exact htarget.bind_error
    | ok l =>
        refine htarget.bind_ok fun k₁ h₁ => ?_
        have hsource := getLine_agrees h₁ source
        simp only []
        cases hs : s₁.lineAt source with
        | mk s₂ asked =>
          rw [hs] at hsource
          cases asked with
          | error e => exact hsource.bind_error
          | ok other =>
              refine hsource.bind_ok fun k₂ h₂ => ?_
              obtain ⟨hl, hnumber⟩ := h.line_of_lineAt ht
              obtain ⟨hother, -⟩ := h₁.line_of_lineAt hs
              have hmerge : Agrees KeyedClass.Shows
                  (callOn l (KeyedClass.store target.line) (Line.absorb other)
                    ((k₂.project target.project).classOrNew target.className))
                  ((s₂.classAt target.toClassPath).putLine (l.merge other), .ok ()) := by
                refine (Line.absorb_agrees hl hother).callOn fun l' hl' => ?_
                subst hl'
                have hstore := (h₂.classOrNew target.toClassPath).store (hl.merge hother)
                rwa [Line.number_merge, hnumber] at hstore
              exact onClass_agrees h₂ hmerge (name_classAt s₂ target.toClassPath)

/-- **Step lemma**: a step on objects agrees with the step on what they show. -/
theorem step_agrees (h : k.Shows s) (st : Step) :
    Agrees Shows (step st k) ((s.step st).1, (s.step st).2.outcome) := by
  cases st with
  | build name plans =>
      have hfill := KeyedProject.fill_makes KeyedProject.Shows.empty plans
      rw [step, Call.bind_eq, made, EStateM.adaptExcept, Session.step, Project.ofPlans?]
      generalize KeyedProject.fill plans .empty = r, Project.empty.build? plans = x at hfill
      cases hfill with
      | ok hp => exact .ok (h.store name hp)
      | error => exact .error h
  | getClass target =>
      exact onClass_agrees h (.ok (h.classOrNew target)) (name_classAt s target)
  | addClass name plan =>
      have hfill := KeyedClass.fill_makes (KeyedClass.Shows.new plan.name) plan.lines
      rw [step, Call.bind_eq, made, EStateM.adaptExcept, Session.step]
      generalize KeyedClass.fill plan.lines { name := plan.name } = r,
        Class.build? { name := plan.name } plan.lines = x at hfill
      cases hfill with
      | error => exact .error h
      | @ok _ kc c hc =>
          have hadd := KeyedProject.addClass_agrees (h name) hc
          simp only []
          cases hp : (s.project name).addClass c with
          | ok p =>
              rw [hp] at hadd
              exact onProject_agrees h hadd
          | error e =>
              rw [hp] at hadd
              refine (onProject_agrees h hadd).mono fun k' hk' other => ?_
              have hother := hk' other
              rw [Session.project_put] at hother
              split at hother
              · next heq => exact heq ▸ hother
              · exact hother
  | editLine target plan =>
      have hadd := KeyedClass.addLine_agrees (h.classOrNew target) plan
      have hname : ((s.classAt target).applyLine plan).1.name = target.className :=
        (Class.name_applyLine _ plan).trans (name_classAt s target)
      rw [step, Session.step]
      generalize (s.classAt target).applyLine plan = edited at hadd hname
      obtain ⟨c, refused⟩ := edited
      cases refused with
      | none => exact onClass_agrees h hadd hname
      | some e => exact onClass_agrees h hadd hname
  | findClass target => exact .ok h
  | findLine target =>
      exact onClass_agrees h (.ok (h.classOrNew target.toClassPath))
        (name_classAt s target.toClassPath)
  | findJump target index => exact readLine_agrees h target fun _ => rfl
  | findSwitch target index => exact readLine_agrees h target fun _ => rfl
  | merge name source =>
      exact onProject_agrees h (KeyedProject.absorb_agrees (h name) (h source))
  | mergeClass target source =>
      exact onClass_agrees h
        (KeyedClass.absorb_agrees (h.classOrNew target) (h.classOrNew source))
        (name_classAt s target)
  | mergeLine target source => exact mergeLine_agrees h target source
  | filter name into plan =>
      rw [step, Session.step]
      cases ClassFilter.ofPlan? plan with
      | error e => exact .error h
      | ok f => exact .ok (h.store into ((h name).select f))
  | dump name => exact .ok h
  | statuses name classes => exact .ok h
  | compare a b => exact .ok h

/-- **Run lemma**: after the same steps the objects show the projects. -/
theorem Shows.after (h : k.Shows s) (steps : List Step) : (k.after steps).Shows (s.after steps) := by
  induction steps generalizing k s with
  | nil => exact h
  | cons st steps ih =>
      refine ih ?_
      have hstep := step_agrees h st
      rw [afterStep]
      generalize step st k = r, (s.step st).2.outcome = x at hstep
      cases hstep with
      | ok h' => exact h'
      | error h' => exact h'

/-- A step is refused on the objects exactly if it is on what they show. -/
theorem Shows.refused_iff (h : k.Shows s) (st : Step) (e : StepError) :
    (∃ k', step st k = .error e k') ↔ (s.step st).2 = .refused e := by
  have hstep := step_agrees h st
  rw [← StepAnswer.outcome_eq_error_iff]
  generalize step st k = r, (s.step st).2.outcome = x at hstep
  cases hstep <;> simp

end KeyedSession

end CoverageDiff
