import CoverageDiff.Cobertura.Reader
import CoverageDiff.Proofs.Filing
import CoverageDiff.Proofs.Merging
import CoverageDiff.Proofs.Steps

/-!
# CoverageDiff.Proofs.Reading

What a coverage document is read as.  Which documents are accepted is a matter
of each element on its own (`RowSound`, `ClassSound`), and an accepted one is
read as the project of its class elements, filed one after another:

* `addRows_eq_ok_iff`: the rows of a class element;
* `addClasses_eq_ok_iff`: the class elements of a document;
* `project?_eq_ok_iff`: the document.

`line?_wellFormed` says that the line of a row is well-formed, and
`line?_distinctKeys` that its switches repeat no key if the conditions of the
row do not.
-/

namespace CoverageDiff.Cobertura

open Markup
open CoverageDiff.Shelf

/-! ## The parts of a document -/

/-- The class elements of a document. -/
def classElements (root : Node) : List Node :=
  root.descendantsNamed "class"

/-- The rows of a class element. -/
def classRows (n : Node) : List Node :=
  n.grandchildrenNamed "lines" "line"

/-- The conditions of a row. -/
def rowConditions (n : Node) : List Node :=
  n.grandchildrenNamed "conditions" "condition"

/-- The keys that a condition lists, none if it does not list numbers. -/
def listedKeys (n : Node) : List Int :=
  match numbers? n "keys" with
  | .ok keys => keys
  | .error _ => []

/-- No switch among the conditions of a row repeats a key. -/
def RowDistinct (n : Node) : Prop :=
  ∀ condition ∈ rowConditions n, conditionKind condition = "switch" → (listedKeys condition).Nodup

/-- No switch among the conditions of a class element repeats a key. -/
def ClassDistinct (n : Node) : Prop :=
  ∀ row ∈ classRows n, RowDistinct row

instance (n : Node) : Decidable (RowDistinct n) :=
  inferInstanceAs (Decidable (∀ condition ∈ rowConditions n, _ → _))

instance (n : Node) : Decidable (ClassDistinct n) :=
  inferInstanceAs (Decidable (∀ row ∈ classRows n, RowDistinct row))

/-! ## Conditions -/

/-- The switch of a condition has the keys that are listed, each with a count. -/
theorem switch?_eq_ok {line : Int} {n : Node} {s : Switch} (h : switch? line n = .ok s) :
    s.keys = listedKeys n ∧ s.Even := by
  unfold switch? at h
  obtain ⟨index, _, h⟩ := bind_eq_ok h
  obtain ⟨keys, hkeys, h⟩ := bind_eq_ok h
  obtain ⟨hits, _, h⟩ := bind_eq_ok h
  split at h
  · next hlen =>
      obtain ⟨defaultHits, _, h⟩ := bind_eq_ok h
      cases h
      exact ⟨by rw [listedKeys, hkeys], hlen⟩
  · cases h

/-- A condition that is accepted sets a jump, or a switch with the keys that are listed. -/
theorem addCondition?_eq_ok {l l' : Line} {n : Node} (h : addCondition? l n = .ok l') :
    (∃ j, l' = l.setJump j) ∨
      ∃ s, l' = l.setSwitch s ∧ s.Even ∧ conditionKind n = "switch" ∧ s.keys = listedKeys n := by
  unfold addCondition? at h
  simp only [] at h
  split at h
  · obtain ⟨j, _, rfl⟩ := map_eq_ok h
    exact Or.inl ⟨j, rfl⟩
  · split at h
    · next hkind =>
        obtain ⟨s, hs, rfl⟩ := map_eq_ok h
        obtain ⟨hkeys, heven⟩ := switch?_eq_ok hs
        exact Or.inr ⟨s, rfl, heven, hkind, hkeys⟩
    · cases h

/-! ## Rows -/

/-- The line of a row has the number of the row and is well-formed. -/
theorem line?_wellFormed {number : Int} {n : Node} {l : Line} (h : line? number n = .ok l)
    (hnumber : 1 ≤ number) : l.WellFormed ∧ l.number = number := by
  unfold line? at h
  obtain ⟨hits, _, h⟩ := bind_eq_ok h
  refine foldlM_eq_ok (P := fun l => l.WellFormed ∧ l.number = number) ?_ ?_ h
  · rintro b b' condition _ ⟨hb, hnum⟩ hb'
    rcases addCondition?_eq_ok hb' with ⟨j, rfl⟩ | ⟨s, rfl, heven, _, _⟩
    · exact ⟨hb.setJump j, hnum⟩
    · exact ⟨hb.setSwitch heven, hnum⟩
  · refine ⟨⟨hnumber, ascending_nil, ascending_nil, ?_⟩, rfl⟩
    exact fun _ hs => absurd hs List.not_mem_nil

/-- The line of a row whose conditions repeat no key repeats none. -/
theorem line?_distinctKeys {number : Int} {n : Node} {l : Line} (h : line? number n = .ok l)
    (hn : RowDistinct n) : l.DistinctKeys := by
  unfold line? at h
  obtain ⟨hits, _, h⟩ := bind_eq_ok h
  refine foldlM_eq_ok (P := Line.DistinctKeys) ?_ ?_ h
  · intro b b' condition hmem hb hb'
    rcases addCondition?_eq_ok hb' with ⟨j, rfl⟩ | ⟨s, rfl, _, hkind, hkeys⟩
    · exact hb
    · have hs : s.keys.Nodup := hkeys ▸ hn condition hmem hkind
      exact forall_mem_put hb hs
  · exact fun _ hs => absurd hs List.not_mem_nil

/-- A row is skipped or gives a line. -/
def RowSound (n : Node) : Prop :=
  ∀ number e, rowNumber n = .ok number → line? number n ≠ .error e

/-- The line of a row, none if the row is skipped. -/
def rowLine? (n : Node) : Option Line :=
  match rowNumber n with
  | .ok number => (line? number n).toOption
  | .error _ => none

theorem rowLine?_eq_some {n : Node} {l : Line} (h : rowLine? n = some l) :
    ∃ number, rowNumber n = .ok number ∧ line? number n = .ok l := by
  unfold rowLine? at h
  split at h
  · next number hnumber =>
      cases hl : line? number n with
      | error e =>
          rw [hl] at h
          cases h
      | ok l' =>
          rw [hl] at h
          cases h
          exact ⟨number, hnumber, hl⟩
  · cases h

/-- Only rows with a positive number give a line. -/
theorem one_le_of_rowNumber {n : Node} {number : Int} (h : rowNumber n = .ok number) :
    1 ≤ number := by
  unfold rowNumber at h
  split at h
  · next k _ _ =>
      split at h
      · cases h
      · next hpos =>
          cases h
          exact Int.not_lt.mp hpos
  · cases h

theorem rowLine?_wellFormed {n : Node} {l : Line} (h : rowLine? n = some l) : l.WellFormed := by
  obtain ⟨number, hnumber, hl⟩ := rowLine?_eq_some h
  exact (line?_wellFormed hl (one_le_of_rowNumber hnumber)).1

theorem rowLine?_distinctKeys {n : Node} {l : Line} (h : rowLine? n = some l)
    (hn : RowDistinct n) : l.DistinctKeys := by
  obtain ⟨number, _, hl⟩ := rowLine?_eq_some h
  exact line?_distinctKeys hl hn

/-- **Rows**: they are accepted if each of them is, and their lines are filed one after another. -/
theorem addRows_eq_ok_iff {source : String} {c c' : Class} {rows : List Node} :
    (addRows source c rows).2 = .ok c' ↔
      (∀ n ∈ rows, RowSound n) ∧
        { c with lines := Shelf.merge Line.merge c.lines (rows.filterMap rowLine?) } = c' := by
  induction rows generalizing c with
  | nil => simp [addRows]
  | cons n rows ih =>
      rw [addRows, List.forall_mem_cons]
      cases hnumber : rowNumber n with
      | error skip =>
          have hsound : RowSound n := by
            intro number e h
            rw [hnumber] at h
            cases h
          have hline : rowLine? n = none := by rw [rowLine?, hnumber]
          simp only [List.filterMap_cons, hline, ih, hsound, true_and]
      | ok number =>
          cases hl : line? number n with
          | error e =>
              have hsound : ¬RowSound n := fun h => h number e hnumber hl
              simp [hl, hsound]
          | ok l =>
              have hsound : RowSound n := by
                intro k e hk
                cases hnumber.symm.trans hk
                rw [hl]
                intro he
                cases he
              have hline : rowLine? n = some l := by
                rw [rowLine?, hnumber]
                simp only [hl, Except.toOption]
              simp only [hl, List.filterMap_cons, hline, ih, hsound, true_and, merge_cons]

/-! ## Classes -/

/-- A class element has a name, and its rows are accepted. -/
def ClassSound (n : Node) : Prop :=
  (className? n).isSome ∧ ∀ row ∈ classRows n, RowSound row

/-- The lines of rows, those of one number merged. -/
def linesOf (rows : List Node) : List Line :=
  Shelf.merge Line.merge [] (rows.filterMap rowLine?)

/-- The class of a class element. -/
def classOf (n : Node) : Class where
  name := (className? n).getD ""
  lines := linesOf (classRows n)

theorem classOf_eq {n : Node} {name : String} (h : className? n = some name) :
    classOf n = { name, lines := linesOf (classRows n) } := by
  rw [classOf, h, Option.getD_some]

/-- The project of class elements. -/
def projectOf (ns : List Node) : Project where
  classes := Shelf.merge Class.merge [] (ns.map classOf)

/-- **Class elements**: they are accepted if each of them is, and their classes are filed one after
another. -/
theorem addClasses_eq_ok_iff {source : String} {p q : Project} {ns : List Node} :
    (addClasses source p ns).2 = .ok q ↔
      (∀ n ∈ ns, ClassSound n) ∧
        { p with classes := Shelf.merge Class.merge p.classes (ns.map classOf) } = q := by
  induction ns generalizing p with
  | nil => simp [addClasses]
  | cons n ns ih =>
      rw [addClasses, List.forall_mem_cons]
      cases hname : className? n with
      | none =>
          have hsound : ¬ClassSound n := by
            intro h
            rw [ClassSound, hname] at h
            exact Bool.noConfusion h.1
          simp [hsound]
      | some name =>
          have hclass : classOf n = { name, lines := linesOf (classRows n) } := classOf_eq hname
          have hsound : ClassSound n ↔ ∀ row ∈ classRows n, RowSound row := by
            rw [ClassSound, hname]
            exact and_iff_right rfl
          have hrows : ∀ c, (addRows source { name } (classRows n)).2 = .ok c ↔
              ClassSound n ∧ classOf n = c := by
            intro c
            rw [addRows_eq_ok_iff, hsound, hclass, linesOf]
          have hread : n.grandchildrenNamed "lines" "line" = classRows n := rfl
          simp only [hread]
          rcases hadd : addRows source { name } (classRows n) with ⟨log, e | c⟩
          · have hnot : ¬ClassSound n := by
              intro h
              have hok := (hrows (classOf n)).mpr ⟨h, rfl⟩
              rw [hadd] at hok
              cases hok
            simp [hnot]
          · obtain ⟨hs, rfl⟩ := (hrows c).mp (by rw [hadd])
            simp only [ih, hs, true_and, List.map_cons, merge_cons, Project.mergeClass]

/-- **Documents**: one is accepted if its outermost element is that of a report and its class
elements are accepted, and its project is that of its class elements. -/
theorem project?_eq_ok_iff {source : String} {root : Node} {p : Project} :
    project? source root = .ok p ↔
      isRoot root = true ∧ (∀ n ∈ classElements root, ClassSound n) ∧
        projectOf (classElements root) = p := by
  have hclasses : ∀ q, (addClasses source .empty (classElements root)).2 = .ok q ↔
      (∀ n ∈ classElements root, ClassSound n) ∧ projectOf (classElements root) = q :=
    fun q => addClasses_eq_ok_iff
  have hread : root.descendantsNamed "class" = classElements root := rfl
  rw [project?, project, hread]
  by_cases hroot : isRoot root = true
  · rw [if_pos hroot, ← hclasses, and_iff_right hroot]
    rcases addClasses source .empty (classElements root) with ⟨log, e | q⟩
    · rfl
    · rfl
  · rw [if_neg hroot]
    simp [hroot]

end CoverageDiff.Cobertura
