import CoverageDiff.Proofs.WellFormed
import CoverageDiff.Session

/-!
# CoverageDiff.Proofs.Reachable

The projects that the operations on coverage trees can give: those of a
session that starts without projects, after any steps (`Project.Reachable`).

`Session.WellFormed.step` is the step lemma: no step, refused or not, leaves
a project that is not well-formed.  `Session.WellFormed.after` is the run
lemma, and `Project.Reachable.wellFormed` what other modules use.
-/

namespace CoverageDiff

/-! ## Sessions -/

namespace Session

/-- Every project of a session is well-formed. -/
def WellFormed (s : Session) : Prop :=
  ∀ x ∈ s, x.2.WellFormed

theorem WellFormed.nil : WellFormed [] := fun _ hx => absurd hx List.not_mem_nil

variable {s : Session}

/-- A project that was put under a name is found there, and all others as before. -/
theorem project_put (s : Session) (name : String) (p : Project) (other : String) :
    (s.put name p).project other = if name = other then p else s.project other := by
  have hkey : key (name, p) = name := rfl
  rw [Session.project, Session.put, Shelf.find?_put, hkey]
  by_cases h : name = other
  · rw [if_pos h, if_pos h]
    rfl
  · rw [if_neg h, if_neg h, Session.project]

theorem WellFormed.project (h : s.WellFormed) (name : String) : (s.project name).WellFormed := by
  unfold Session.project
  cases hx : Shelf.find? name s with
  | none => exact Project.WellFormed.empty
  | some x => exact h x (Shelf.mem_of_find? hx)

theorem WellFormed.classAt (h : s.WellFormed) (target : ClassPath) :
    (s.classAt target).WellFormed :=
  (h.project target.project).classOrNew target.className

theorem WellFormed.put (h : s.WellFormed) (name : String) {p : Project} (hp : p.WellFormed) :
    (s.put name p).WellFormed :=
  Shelf.forall_mem_put h hp

theorem WellFormed.putClass (h : s.WellFormed) (project : String) {c : Class} (hc : c.WellFormed) :
    (s.putClass project c).WellFormed :=
  h.put project ((h.project project).putClass hc)

/-- Asking for a line leaves well-formed projects and gives a well-formed line. -/
theorem WellFormed.lineAt (h : s.WellFormed) (target : LinePath) :
    (s.lineAt target).1.WellFormed ∧ ∀ l, (s.lineAt target).2 = .ok l → l.WellFormed := by
  have hc := h.classAt target.toClassPath
  unfold Session.lineAt
  simp only []
  cases hl : (s.classAt target.toClassPath).lineOrNew target.line none with
  | ok l =>
      have hline := hc.of_lineOrNew hl
      exact ⟨h.putClass target.project (hc.putLine hline), fun _ he => by cases he; exact hline⟩
  | error e =>
      exact ⟨h.putClass target.project hc, fun _ he => by contradiction⟩

theorem WellFormed.readLine (h : s.WellFormed) (target : LinePath) (answer : Line → StepAnswer) :
    (s.readLine target answer).1.WellFormed := by
  have hl := (h.lineAt target).1
  unfold Session.readLine
  split
  · next heq => rw [heq] at hl; exact hl
  · next heq => rw [heq] at hl; exact hl

/-- **Step lemma**: a step leaves well-formed projects, also where it is refused. -/
theorem WellFormed.step (h : s.WellFormed) (st : Step) : (s.step st).1.WellFormed := by
  cases st with
  | build name plans =>
      simp only [Session.step]
      split
      · next p hp => exact h.put name (Project.WellFormed.ofPlans? hp)
      · exact h
  | getClass target => exact h.putClass target.project (h.classAt target)
  | addClass name plan =>
      simp only [Session.step]
      split
      · exact h
      · next c hc =>
          split
          · exact h
          · next p hp =>
              have hclass := (Class.WellFormed.new plan.name).build? hc
              exact h.put name ((h.project name).addClass hclass hp)
  | editLine target plan =>
      have hc := (h.classAt target).applyLine plan
      have hput := h.putClass target.project hc
      simp only [Session.step]
      split
      · exact hput
      · exact hput
  | findClass target => exact h
  | findLine target => exact h.putClass target.project (h.classAt target.toClassPath)
  | findJump target index => exact h.readLine target _
  | findSwitch target index => exact h.readLine target _
  | merge name source => exact h.put name ((h.project name).merge (h.project source))
  | mergeClass target source =>
      exact h.putClass target.project ((h.classAt target).merge (h.classAt source))
  | mergeLine target source =>
      have htarget := h.lineAt target
      simp only [Session.step]
      split
      · next s₁ e hs₁ =>
          rw [hs₁] at htarget
          exact htarget.1
      · next s₁ l hs₁ =>
          rw [hs₁] at htarget
          have hs₁wf : s₁.WellFormed := htarget.1
          have hsource := hs₁wf.lineAt source
          split
          · next s₂ e hs₂ =>
              rw [hs₂] at hsource
              exact hsource.1
          · next s₂ other hs₂ =>
              rw [hs₂] at hsource
              have hs₂wf : s₂.WellFormed := hsource.1
              have hline := (htarget.2 l rfl).merge (hsource.2 other rfl)
              exact hs₂wf.putClass target.project ((hs₂wf.classAt target.toClassPath).putLine hline)
  | filter name into plan =>
      simp only [Session.step]
      split
      · exact h
      · next f hf => exact h.put into ((h.project name).filter f.allow)
  | dump name => exact h
  | statuses name classes => exact h
  | compare a b => exact h

/-- **Run lemma**: every run leaves well-formed projects. -/
theorem WellFormed.after (h : s.WellFormed) (steps : List Step) : (s.after steps).WellFormed := by
  induction steps generalizing s with
  | nil => exact h
  | cons st steps ih => exact ih (h.step st)

end Session

/-! ## Reachable projects -/

/-- A project of a session that started without projects. -/
def Project.Reachable (p : Project) : Prop :=
  ∃ (steps : List Step) (name : String), (Session.after [] steps).project name = p

/-- **Representation invariant**: a project that operations can give is well-formed. -/
theorem Project.Reachable.wellFormed {p : Project} (h : p.Reachable) : p.WellFormed := by
  obtain ⟨steps, name, rfl⟩ := h
  exact (Session.WellFormed.nil.after steps).project name

/-- A description that is not refused gives a reachable project. -/
theorem Project.Reachable.of_ofPlans? {p : Project} {plans : List ClassPlan}
    (h : Project.ofPlans? plans = .ok p) : p.Reachable := by
  refine ⟨[.build "" plans], "", ?_⟩
  have hstep : (Session.step [] (.build "" plans)).1 = Session.put [] "" p := by
    simp only [Session.step, h]
  have hafter : Session.after [] [.build "" plans] = Session.put [] "" p := hstep
  rw [hafter, Session.project, Session.put, Shelf.find?_put]
  rfl

end CoverageDiff
