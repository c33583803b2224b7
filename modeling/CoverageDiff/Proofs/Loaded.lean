import CoverageDiff.Proofs.Counts
import CoverageDiff.Proofs.ExitStatus
import CoverageDiff.Proofs.Payload

/-!
# CoverageDiff.Proofs.Loaded

Projects that are loaded from report files are among those that operations can
give, and their indexes are not negative (`reachable_of_loadSide`,
`indexed_of_loadSide`).  So comparing files gives a document of the form of the
schema (`renderAs_json_of_compareFiles`), and a comparison can fail to be
rendered only as a listing (`markup_of_textOf_error`).
-/

namespace CoverageDiff

open CoverageDiff.Shelf Cobertura Markup Files

/-! ## Documents -/

theorem wellFormed_classOf (n : Node) : (classOf n).WellFormed where
  ascending := ascending_nil.merge Line.keepsKey_merge _
  lines := by
    refine forall_mem_merge (List.forall_mem_nil _) ?_ fun _ _ hl hm => hl.merge hm
    intro l hl
    obtain ⟨row, _, hrow⟩ := List.mem_filterMap.mp hl
    exact rowLine?_wellFormed hrow

theorem wellFormed_projectOf (ns : List Node) : (projectOf ns).WellFormed where
  ascending := ascending_nil.merge Class.keepsKey_merge _
  classes := by
    refine forall_mem_merge (List.forall_mem_nil _) ?_ fun _ _ hc hd => hc.merge hd
    rw [List.forall_mem_map]
    exact fun n _ => wellFormed_classOf n

theorem Project.Counted.indexed {Case : Int → Prop} {p : Project} (h : p.Counted Case) :
    p.Indexed := by
  intro c hc l hl
  have hline := (h c hc).lines l hl
  exact ⟨fun j hj => (hline.jumps j hj).index, fun s hs => (hline.switches s hs).index⟩

/-! ## Files -/

section Files

variable {w : Workspace} {paths : List Path} {filter : Option ClassFilter} {p : Project}

theorem wellFormed_of_loadReport {path : Path} (h : (loadReport w path).2 = .ok p) :
    p.WellFormed := by
  obtain ⟨_, root, _, _, hproject⟩ := loadReport_eq_ok h
  obtain ⟨_, _, rfl⟩ := project?_eq_ok_iff.mp hproject
  exact wellFormed_projectOf _

theorem wellFormed_of_loadInto {q : Project} (h : (loadInto w p paths).2 = .ok q)
    (hp : p.WellFormed) : q.WellFormed := by
  induction paths generalizing p with
  | nil =>
      cases h
      exact hp
  | cons path more ih =>
      obtain ⟨r, hr, hrest⟩ := andThen_eq_ok h
      exact ih hrest (hp.merge (wellFormed_of_loadReport hr))

/-- A side is what its files hold, or the classes of it that a filter lets pass. -/
theorem loadSide_eq_ok (h : (loadSide w paths filter).2 = .ok p) :
    ∃ q, (loadReports w paths).2 = .ok q ∧ selectWith filter q = p := by
  obtain ⟨q, hq, hselect⟩ := andThen_eq_ok h
  exact ⟨q, hq, Except.ok.inj hselect⟩

theorem reachable_of_loadSide (h : (loadSide w paths filter).2 = .ok p) : p.Reachable := by
  obtain ⟨q, hq, rfl⟩ := loadSide_eq_ok h
  have hwf : q.WellFormed := wellFormed_of_loadInto hq .empty
  rw [Project.reachable_iff_wellFormed]
  unfold selectWith
  split
  · split
    · exact hwf
    · exact hwf.filter _
  · exact hwf

theorem indexed_of_loadSide (h : (loadSide w paths filter).2 = .ok p) : p.Indexed := by
  obtain ⟨q, hq, rfl⟩ := loadSide_eq_ok h
  have hcounted : q.Counted AnyCase :=
    counted_of_loadReports (fun _ _ _ _ => trivial) hq
      fun _ _ _ root _ _ => reportListsCases_anyCase root
  unfold selectWith
  split
  · split
    · exact hcounted.indexed
    · exact fun c hc => hcounted.indexed c (List.mem_of_mem_filter hc)
  · exact hcounted.indexed

end Files

/-! ## Comparisons -/

variable {w : Workspace}

theorem accepts_of_loadSide {baseline current : SidePlan} {filter : Option ClassFilter}
    {a b : Project} (ha : (loadSide w baseline.paths filter).2 = .ok a)
    (hb : (loadSide w current.paths filter).2 = .ok b) :
    Payload.schema.accepts
      (Payload.document (Report.between a b) ⟨baseline.side a, current.side b⟩) = true :=
  Payload.accepts_between (reachable_of_loadSide ha).wellFormed (reachable_of_loadSide hb).wellFormed
    (indexed_of_loadSide ha) (indexed_of_loadSide hb) (Payload.countsLines_side _ _)
    (Payload.countsLines_side _ _)

/-- **Files**: the document of a comparison of files is written. -/
theorem renderAs_json_of_compareFiles {baseline current : SidePlan} {filter : Option ClassFilter}
    {c : Compared} (h : (compareFiles w baseline current filter).2 = .ok c) (color : Bool) :
    c.report.renderAs .json c.origin color = .ok (Payload.document c.report c.origin).render := by
  obtain ⟨a, ha, hrest⟩ := andThen_eq_ok h
  obtain ⟨b, hb, hcompared⟩ := andThen_eq_ok hrest
  cases hcompared
  exact Payload.renderAs_json_of_accepts (accepts_of_loadSide ha hb) color

open CommandLine in
/-- A comparison that is loaded fails to be rendered only as a listing, where a class name closes a
style that was not opened. -/
theorem markup_of_textOf_error {r : DiffRequest} {s : Settings} {f : ClassFilter} {a b : Project}
    {e : RenderError} (h : Loads w r s f a b) (he : textOf s r a b = .error e) :
    formatOf s r = .human ∧ ∃ m, e = .markup m := by
  unfold textOf at he
  cases hformat : formatOf s r with
  | human =>
      refine ⟨rfl, ?_⟩
      simp only [hformat, Report.renderAs, Except.mapError] at he
      split at he
      · next m _ =>
          cases he
          exact ⟨m, rfl⟩
      · contradiction
  | rg =>
      rw [hformat] at he
      contradiction
  | json =>
      have haccepts : Payload.schema.accepts (Payload.document (Report.between a b)
          ⟨SidePlan.side ⟨[r.baseline], r.baselineMode⟩ a,
            SidePlan.side ⟨[r.current], r.currentMode⟩ b⟩) = true :=
        accepts_of_loadSide h.baseline h.current
      rw [hformat, Payload.renderAs_json_of_accepts haccepts] at he
      contradiction

end CoverageDiff
