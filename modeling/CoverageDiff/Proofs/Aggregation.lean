import CoverageDiff.Proofs.Coverage
import CoverageDiff.Proofs.Equivalence

/-!
# CoverageDiff.Proofs.Aggregation

Sides that agree run by run, and what is left of that when the runs are added
up.

1. Classes, lines, jumps and switches are there in both sums or in neither,
   and branches cover the same: outcomes and labels of a sum are those of its
   parts.
2. The status of a line is not a matter of its parts' views.  Whether it was
   hit and which keys its switches have does not show where the line is partly
   covered, and decides in the sum whether the line is fully covered.

`Line.status_merge_eq` is the law for lines that were hit and have keys on the
same ground, `Line.status_merge` what is left without that, and
`Report.between_merge` puts it together for projects.  The two samples at the
end show that neither hits nor keys can be left out.
-/

namespace CoverageDiff

open CoverageDiff.Shelf

/-! ## Lines -/

namespace Line

/-- Both lines were hit or neither was, and their switches have the same keys. -/
structure SameGround (l m : Line) : Prop where
  hits : l.hits = 0 ↔ m.hits = 0
  keys : ∀ i k, l.HasKey i k ↔ m.HasKey i k

/-- One of two lines on other ground is partly covered, the other fully. -/
def Shifts (l m : Line) : Prop :=
  ¬l.SameGround m ∧
    (l.status = .partly ∧ m.status = .full ∨ l.status = .full ∧ m.status = .partly)

variable {a a' b b' l m : Line}

theorem outcome_merge_eq (ha : a.Tidy) (ha' : a'.Tidy) (hb : b.Tidy) (hb' : b'.Tidy)
    (hva : a.view = a'.view) (hvb : b.view = b'.view) :
    (a.merge b).view.outcome = (a'.merge b').view.outcome := by
  funext i
  rw [outcome_view_merge ha hb, outcome_view_merge ha' hb', hva, hvb]

theorem covered_merge_eq (ha : a.Tidy) (ha' : a'.Tidy) (hb : b.Tidy) (hb' : b'.Tidy)
    (hva : a.view = a'.view) (hvb : b.view = b'.view) :
    (a.merge b).view.covered = (a'.merge b').view.covered := by
  funext i
  rw [covered_view_merge ha hb, covered_view_merge ha' hb', hva, hvb]

/-- Lines on the same ground whose branches cover the same are fully covered both or neither. -/
theorem SameGround.status_eq_full_iff (h : l.SameGround m) (hl : l.Regular) (hm : m.Regular)
    (houtcome : l.view.outcome = m.view.outcome) (hcovered : l.view.covered = m.view.covered) :
    l.status = .full ↔ m.status = .full := by
  have hall : l.allCovered = true ↔ m.allCovered = true := by
    rw [allCovered_iff hl, allCovered_iff hm, houtcome, hcovered]
    simp only [h.keys]
  rw [Line.status_eq_full_iff, Line.status_eq_full_iff, hall, Ne, Ne, h.hits]

theorem status_merge_eq_none_iff_of_view (ha : a.Tidy) (ha' : a'.Tidy) (hb : b.Tidy)
    (hb' : b'.Tidy) (hva : a.view = a'.view) (hvb : b.view = b'.view) :
    (a.merge b).status = .none ↔ (a'.merge b').status = .none := by
  have hsa : a.status = a'.status := congrArg LineView.status hva
  have hsb : b.status = b'.status := congrArg LineView.status hvb
  rw [status_merge_eq_none_iff ha hb, status_merge_eq_none_iff ha' hb', hsa, hsb]

/-- On the same ground the sums of lines with the same views have one status. -/
theorem status_merge_eq (ha : a.Tidy) (ha' : a'.Tidy) (hb : b.Tidy) (hb' : b'.Tidy)
    (hva : a.view = a'.view) (hvb : b.view = b'.view)
    (h : (a.merge b).SameGround (a'.merge b')) : (a.merge b).status = (a'.merge b').status :=
  Status.eq_of_iff (status_merge_eq_none_iff_of_view ha ha' hb hb' hva hvb)
    (h.status_eq_full_iff (ha.merge hb).toRegular (ha'.merge hb').toRegular
      (outcome_merge_eq ha ha' hb hb' hva hvb) (covered_merge_eq ha ha' hb hb' hva hvb))

/-- The sums of lines with the same views have one status, or they shift. -/
theorem status_merge (ha : a.Tidy) (ha' : a'.Tidy) (hb : b.Tidy) (hb' : b'.Tidy)
    (hva : a.view = a'.view) (hvb : b.view = b'.view) :
    (a.merge b).status = (a'.merge b').status ∨ (a.merge b).Shifts (a'.merge b') := by
  by_cases hne : (a.merge b).status = (a'.merge b').status
  · exact .inl hne
  · have hground : ¬(a.merge b).SameGround (a'.merge b') := fun h =>
      hne (status_merge_eq ha ha' hb hb' hva hvb h)
    have hnone := status_merge_eq_none_iff_of_view ha ha' hb hb' hva hvb
    refine .inr ⟨hground, ?_⟩
    revert hne hnone
    generalize (a.merge b).status = s
    generalize (a'.merge b').status = t
    cases s <;> cases t <;> simp

end Line

/-! ## Projects -/

section Projects

variable {a a' b b' : Project} {c : String} {n : Int}

/-- A class is in a sum exactly if it is in one of its parts. -/
theorem Project.isSome_view_merge (ha : a.Tidy) (hb : b.Tidy) (c : String) :
    ((a.merge b).view c).isSome ↔ (a.view c).isSome ∨ (b.view c).isSome := by
  rw [isSome_view, isSome_view, isSome_view,
    class?_merge ha.reachable.wellFormed hb.reachable.wellFormed, isSome_optionMerge_iff]

theorem Project.line?_merge_of_tidy (ha : a.Tidy) (hb : b.Tidy) (c : String) (n : Int) :
    (a.merge b).line? c n = Option.merge Line.merge (a.line? c n) (b.line? c n) :=
  line?_merge ha.reachable.wellFormed hb.reachable.wellFormed c n

/-- Projects with one view have the same lines, each with the view of the other. -/
theorem Project.exists_line?_of_view_eq (h : a.view = a'.view) {l : Line}
    (hl : a.line? c n = some l) : ∃ l', a'.line? c n = some l' ∧ l'.view = l.view := by
  have hview : a.view.line? c n = some l.view := view_line?_eq_some_iff.mpr ⟨l, hl, rfl⟩
  rw [h] at hview
  exact view_line?_eq_some_iff.mp hview

theorem Project.line?_eq_none_of_view_eq (h : a.view = a'.view) (hl : a.line? c n = none) :
    a'.line? c n = none := by
  have hview : a.view.line? c n = none := by rw [view_line?, hl, Option.map_none]
  rw [h, view_line?, Option.map_eq_none_iff] at hview
  exact hview

/-- What a line of a sum has in the other sum: branches that cover the same, and the status, if it
does not shift with both parts sharing in the line. -/
structure Line.Alike (a b : Project) (c : String) (n : Int) (l m : Line) : Prop where
  outcome : l.view.outcome = m.view.outcome
  covered : l.view.covered = m.view.covered
  status : l.status = m.status ∨ (a.line? c n).isSome ∧ (b.line? c n).isSome ∧ l.Shifts m

theorem Line.Alike.of_view_eq {l m : Line} (h : m.view = l.view) : Line.Alike a b c n l m where
  outcome := by rw [h]
  covered := by rw [h]
  status := .inl (congrArg LineView.status h).symm

/-- **Line by line**: sums of projects with the same views have the same lines, and these are
alike. -/
theorem Project.exists_alike (ha : a.Tidy) (ha' : a'.Tidy) (hb : b.Tidy) (hb' : b'.Tidy)
    (hva : a.view = a'.view) (hvb : b.view = b'.view) {l : Line}
    (hl : (a.merge b).line? c n = some l) :
    ∃ m, (a'.merge b').line? c n = some m ∧ Line.Alike a b c n l m := by
  rw [line?_merge_of_tidy ha hb] at hl
  rw [line?_merge_of_tidy ha' hb']
  cases hla : a.line? c n with
  | none =>
      rw [hla, Option.merge_none_left] at hl
      obtain ⟨lb', hlb', hview⟩ := exists_line?_of_view_eq hvb hl
      rw [line?_eq_none_of_view_eq hva hla, hlb', Option.merge_none_left]
      exact ⟨lb', rfl, .of_view_eq hview⟩
  | some la =>
      obtain ⟨la', hla', hviewA⟩ := exists_line?_of_view_eq hva hla
      cases hlb : b.line? c n with
      | none =>
          rw [hla, hlb, Option.merge_none_right, Option.some.injEq] at hl
          rw [hla', line?_eq_none_of_view_eq hvb hlb, Option.merge_none_right]
          exact ⟨la', rfl, .of_view_eq (hl ▸ hviewA)⟩
      | some lb =>
          obtain ⟨lb', hlb', hviewB⟩ := exists_line?_of_view_eq hvb hlb
          have hsum : la.merge lb = l := by
            rw [hla, hlb] at hl
            exact Option.some.inj hl
          have hta := ha.line? hla
          have hta' := ha'.line? hla'
          have htb := hb.line? hlb
          have htb' := hb'.line? hlb'
          have hstatus := Line.status_merge hta hta' htb htb' hviewA.symm hviewB.symm
          rw [hla', hlb', ← hsum]
          refine ⟨la'.merge lb', rfl, ?_, ?_, ?_⟩
          · exact Line.outcome_merge_eq hta hta' htb htb' hviewA.symm hviewB.symm
          · exact Line.covered_merge_eq hta hta' htb htb' hviewA.symm hviewB.symm
          · rw [hla, hlb]
            exact hstatus.imp_right fun hshift => ⟨rfl, rfl, hshift⟩

/-- Views of the lines of the two sums come from lines that are alike. -/
theorem Project.alike_of_view (ha : a.Tidy) (ha' : a'.Tidy) (hb : b.Tidy) (hb' : b'.Tidy)
    (hva : a.view = a'.view) (hvb : b.view = b'.view) {v w : LineView}
    (hv : (a.merge b).view.line? c n = some v) (hw : (a'.merge b').view.line? c n = some w) :
    ∃ l m, (a.merge b).line? c n = some l ∧ (a'.merge b').line? c n = some m ∧
      l.view = v ∧ m.view = w ∧ Line.Alike a b c n l m := by
  obtain ⟨l, hl, hlv⟩ := view_line?_eq_some_iff.mp hv
  obtain ⟨m, hm, hmw⟩ := view_line?_eq_some_iff.mp hw
  obtain ⟨m', hm', halike⟩ := exists_alike ha ha' hb hb' hva hvb hl
  rw [hm, Option.some.injEq] at hm'
  exact ⟨l, m, hl, hm, hlv, hmw, hm' ▸ halike⟩

/-- No line of a sum is missing in the other. -/
theorem Project.view_line?_ne_none (ha : a.Tidy) (ha' : a'.Tidy) (hb : b.Tidy) (hb' : b'.Tidy)
    (hva : a.view = a'.view) (hvb : b.view = b'.view) {v : LineView}
    (hv : (a.merge b).view.line? c n = some v) : (a'.merge b').view.line? c n ≠ none := by
  obtain ⟨l, hl, _⟩ := view_line?_eq_some_iff.mp hv
  obtain ⟨m, hm, _⟩ := exists_alike ha ha' hb hb' hva hvb hl
  rw [view_line?, hm]
  exact Option.some_ne_none m.view

end Projects

/-! ## Reports -/

namespace Report

/-- `e` says that a line which `a` and `b` share shifts between the sums `p` and `q`. -/
def ShiftedLine (a b p q : Project) (e : Element) : Prop :=
  ∃ n l m, p.line? e.className n = some l ∧ q.line? e.className n = some m ∧
    (a.line? e.className n).isSome ∧ (b.line? e.className n).isSome ∧ l.Shifts m ∧
    e = { className := e.className, kind := .changed, place := .line n,
          before := some (.status l.status), after := some (.status m.status) }

variable {a a' b b' : Project}

/-- Nothing but lines that shift is to be reported of the sums. -/
theorem shiftedLine_of_discrepancy (ha : a.Tidy) (ha' : a'.Tidy) (hb : b.Tidy) (hb' : b'.Tidy)
    (hva : a.view = a'.view) (hvb : b.view = b'.view) {level : Level} {e : Element}
    (h : Discrepancy (a.merge b).view (a'.merge b').view level e) :
    level = .lines ∧ ShiftedLine a b (a.merge b) (a'.merge b') e := by
  have hclass : ∀ c, ((a.merge b).view c).isSome ↔ ((a'.merge b').view c).isSome := by
    intro c
    rw [Project.isSome_view_merge ha hb, Project.isSome_view_merge ha' hb', hva, hvb]
  have halike := @Project.alike_of_view a a' b b'
  cases h with
  | @classRemoved c hp hq =>
      rw [hclass, hq] at hp
      contradiction
  | @classAdded c hp hq =>
      rw [← hclass, hp] at hq
      contradiction
  | lineRemoved _ hp hq =>
      exact absurd hq (Project.view_line?_ne_none ha ha' hb hb' hva hvb hp)
  | lineAdded _ hp hq =>
      exact absurd hp (Project.view_line?_ne_none ha' ha hb' hb hva.symm hvb.symm hq)
  | @lineChanged c n _ _ hp hq hne =>
      obtain ⟨l, m, hl, hm, rfl, rfl, hlm⟩ := halike ha ha' hb hb' hva hvb hp hq
      obtain ⟨hsa, hsb, hshift⟩ := hlm.status.resolve_left hne
      exact ⟨rfl, n, l, m, hl, hm, hsa, hsb, hshift, rfl⟩
  | jumpRemoved hp hq hjp hjq =>
      obtain ⟨l, m, _, _, rfl, rfl, hlm⟩ := halike ha ha' hb hb' hva hvb hp hq
      rw [hlm.outcome, hjq] at hjp
      contradiction
  | jumpAdded hp hq hjp hjq =>
      obtain ⟨l, m, _, _, rfl, rfl, hlm⟩ := halike ha ha' hb hb' hva hvb hp hq
      rw [hlm.outcome, hjq] at hjp
      contradiction
  | jumpChanged hp hq hjp hjq hne =>
      obtain ⟨l, m, _, _, rfl, rfl, hlm⟩ := halike ha ha' hb hb' hva hvb hp hq
      rw [hlm.outcome, hjq, Option.some.injEq] at hjp
      exact absurd hjp.symm hne
  | switchRemoved hp hq hsp hsq _ =>
      obtain ⟨l, m, _, _, rfl, rfl, hlm⟩ := halike ha ha' hb hb' hva hvb hp hq
      rw [hlm.covered, hsq] at hsp
      contradiction
  | switchAdded hp hq hsp hsq _ =>
      obtain ⟨l, m, _, _, rfl, rfl, hlm⟩ := halike ha ha' hb hb' hva hvb hp hq
      rw [hlm.covered, hsq] at hsp
      contradiction
  | switchChanged hp hq hsp hsq hne _ _ =>
      obtain ⟨l, m, _, _, rfl, rfl, hlm⟩ := halike ha ha' hb hb' hva hvb hp hq
      rw [hlm.covered, hsq, Option.some.injEq] at hsp
      exact absurd hsp.symm hne

/-- **Aggregation**: let `a` agree with `a'` and `b` with `b'`.  What is reported of the sums are
lines that are partly covered in one and fully in the other, that both parts have and that were
hit or have keys in one sum but not in the other.  So nothing is reported where the lines that
both parts have are on the same ground. -/
theorem between_merge (ha : a.Tidy) (ha' : a'.Tidy) (hb : b.Tidy) (hb' : b'.Tidy)
    (hA : (between a a').isEmpty = true) (hB : (between b b').isEmpty = true) :
    (∀ level, ∀ e ∈ (between (a.merge b) (a'.merge b')).level level,
      level = .lines ∧ ShiftedLine a b (a.merge b) (a'.merge b') e) ∧
    ((∀ c n l m, (a.line? c n).isSome → (b.line? c n).isSome →
        (a.merge b).line? c n = some l → (a'.merge b').line? c n = some m → l.SameGround m) →
      (between (a.merge b) (a'.merge b')).isEmpty = true) := by
  have hwa := ha.reachable.wellFormed
  have hwa' := ha'.reachable.wellFormed
  have hwb := hb.reachable.wellFormed
  have hwb' := hb'.reachable.wellFormed
  rw [isEmpty_between_iff hwa.distinct hwa'.distinct] at hA
  rw [isEmpty_between_iff hwb.distinct hwb'.distinct] at hB
  have hlines : ∀ level, ∀ e ∈ (between (a.merge b) (a'.merge b')).level level,
      level = .lines ∧ ShiftedLine a b (a.merge b) (a'.merge b') e := by
    intro level e he
    rw [mem_level_iff_discrepancy (hwa.merge hwb).distinct (hwa'.merge hwb').distinct] at he
    exact shiftedLine_of_discrepancy ha ha' hb hb' hA hB he
  refine ⟨hlines, ?_⟩
  intro hground
  rw [isEmpty_iff_forall]
  intro level e he
  obtain ⟨_, n, l, m, hl, hm, hsa, hsb, hshift, _⟩ := hlines level e he
  exact hshift.1 (hground _ n l m hsa hsb hl hm)

end Report

/-! ## Samples -/

namespace Sample

/-- A project of one line. -/
private def ofLine (l : Line) : Project where
  classes := [{ name := "org.example.Foo", lines := [l] }]

/-- A line whose jump was taken one way, without a hit. -/
def unhit : Project := ofLine { number := 3, jumps := [⟨0, 1, 0⟩] }

/-- The line with hits. -/
def hit : Project := ofLine { number := 3, hits := 5, jumps := [⟨0, 1, 0⟩] }

/-- The line whose jump was taken the other way, without a hit. -/
def otherWay : Project := ofLine { number := 3, jumps := [⟨0, 0, 1⟩] }

/-- A line with a switch that has a key whose case was never taken. -/
def twoKeys : Project := ofLine { number := 3, hits := 1, switches := [⟨0, [1, 2], [1, 0], 0⟩] }

/-- The line without that key. -/
def oneKey : Project := ofLine { number := 3, hits := 1, switches := [⟨0, [1], [1], 0⟩] }

/-- The line with the default case taken alone. -/
def defaultOnly : Project := ofLine { number := 3, hits := 1, switches := [⟨0, [1], [0], 1⟩] }

/-- Two runs that agree with their counterparts, and sums that do not: once for the hits of the
line, once for the keys of its switch. -/
theorem between_merge_not_isEmpty :
    (unhit.Tidy ∧ hit.Tidy ∧ otherWay.Tidy ∧ (Report.between unhit hit).isEmpty = true ∧
      (Report.between otherWay otherWay).isEmpty = true ∧
      (Report.between (unhit.merge otherWay) (hit.merge otherWay)).lines =
        [{ className := "org.example.Foo", kind := .changed, place := .line 3,
           before := some (.status .partly), after := some (.status .full) }]) ∧
    twoKeys.Tidy ∧ oneKey.Tidy ∧ defaultOnly.Tidy ∧
      (Report.between twoKeys oneKey).isEmpty = true ∧
      (Report.between defaultOnly defaultOnly).isEmpty = true ∧
      (Report.between (twoKeys.merge defaultOnly) (oneKey.merge defaultOnly)).lines =
        [{ className := "org.example.Foo", kind := .changed, place := .line 3,
           before := some (.status .partly), after := some (.status .full) }] := by
  decide +kernel

/-- What is reported of the sums of the first sample is a line that shifts. -/
theorem shiftedLine_unhit_hit :
    (Report.between (unhit.merge otherWay) (hit.merge otherWay)).isEmpty = false ∧
      ∀ e ∈ (Report.between (unhit.merge otherWay) (hit.merge otherWay)).lines,
        Report.ShiftedLine unhit otherWay (unhit.merge otherWay) (hit.merge otherWay) e := by
  have hunhit : unhit.Tidy := by decide
  have hhit : hit.Tidy := by decide
  have hother : otherWay.Tidy := by decide
  have hA : (Report.between unhit hit).isEmpty = true := by decide +kernel
  have hB : (Report.between otherWay otherWay).isEmpty = true := by decide +kernel
  have hsum := (Report.between_merge hunhit hhit hother hother hA hB).1
  exact ⟨by decide +kernel, fun e he => (hsum .lines e he).2⟩

end Sample

end CoverageDiff
