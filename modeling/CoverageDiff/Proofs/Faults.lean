import CoverageDiff.CommandLine.Outcome
import CoverageDiff.Proofs.Grammar
import CoverageDiff.Proofs.Refusal

/-!
# CoverageDiff.Proofs.Faults

How a document fails that is no report.  The reader stops at the first fault
in the order of the document.  Every fault is reported as bad data but one: a
jump whose percentage is infinite (`InfiniteJump`).  Where that is the first
fault (`InfiniteReport`), the failure is one that was not foreseen.

`FirstFault` says on a list where the reader stops; the four levels of a
document are conditions, rows, class elements and the document, with one
equivalence for each.

The operations on coverage trees behind the reader can refuse something as
well, but are never asked to (`make?_switch?`, `lineOrNew_rowNumber`).
-/

namespace CoverageDiff.Cobertura

open Markup CommandLine

/-! ## The first fault -/

section FirstFault

variable {ε α β : Type} {Good Bad : α → Prop}

/-- Good elements up to a bad one; nothing is said about those after it. -/
def FirstFault (Good Bad : α → Prop) (xs : List α) : Prop :=
  ∃ before x after, xs = before ++ x :: after ∧ (∀ y ∈ before, Good y) ∧ Bad x

theorem not_firstFault_nil : ¬FirstFault Good Bad [] := by
  rintro ⟨before, x, after, h, _⟩
  simp at h

theorem firstFault_cons {x : α} {xs : List α} :
    FirstFault Good Bad (x :: xs) ↔ Bad x ∨ Good x ∧ FirstFault Good Bad xs := by
  constructor
  · rintro ⟨before, y, after, h, hgood, hbad⟩
    cases before with
    | nil =>
        cases h
        exact .inl hbad
    | cons z before =>
        cases h
        obtain ⟨hz, hbefore⟩ := List.forall_mem_cons.mp hgood
        exact .inr ⟨hz, before, y, after, rfl, hbefore, hbad⟩
  · rintro (hbad | ⟨hgood, before, y, after, rfl, hbefore, hbad⟩)
    · exact ⟨[], x, xs, rfl, List.forall_mem_nil _, hbad⟩
    · exact ⟨x :: before, y, after, rfl, List.forall_mem_cons.mpr ⟨hgood, hbefore⟩, hbad⟩

/-- Steps that fail whatever was done before fail at the first that does. -/
theorem foldlM_eq_error_iff {f : β → α → Except ε β} {e : ε}
    (hgood : ∀ b x, (∃ b', f b x = .ok b') ↔ Good x) (hbad : ∀ b x, f b x = .error e ↔ Bad x)
    (xs : List α) (b : β) : xs.foldlM f b = .error e ↔ FirstFault Good Bad xs := by
  induction xs generalizing b with
  | nil => simp [not_firstFault_nil, pure, Except.pure]
  | cons x xs ih =>
      rw [List.foldlM_cons, bind_eq_error_iff, firstFault_cons, hbad, ← hgood b x]
      simp only [ih, exists_and_right]

end FirstFault

/-! ## Conditions -/

section Conditions

variable {n : Node} {name : String}

theorem countOf?_ne_infinite (tag raw : String) :
    countOf? tag name raw ≠ .error .infiniteCoverage := by
  unfold countOf?
  split
  · simp
  · split <;> simp

theorem count?_ne_infinite : count? n name ≠ .error .infiniteCoverage := by
  unfold count?
  split
  · simp
  · exact countOf?_ne_infinite _ _

theorem countOrZero?_ne_infinite : countOrZero? n name ≠ .error .infiniteCoverage := by
  unfold countOrZero?
  split
  · simp
  · exact countOf?_ne_infinite _ _

theorem numbers?_ne_infinite : numbers? n name ≠ .error .infiniteCoverage := by
  unfold numbers?
  simp only []
  split <;> simp

/-- A jump that has a percentage for counts, and an infinite one. -/
structure InfiniteJump (n : Node) : Prop where
  kind : OfKind n "jump"
  number : HasCount n "number"
  unnamed : ¬NamesOutcome n
  percentage : ∃ negative, percentage? n = some (.infinite negative)

theorem jump?_eq_infinite_iff {line : Int} :
    jump? line n = .error .infiniteCoverage ↔
      HasCount n "number" ∧ ¬NamesOutcome n ∧
        ∃ negative, percentage? n = some (.infinite negative) := by
  rw [jump?, bind_eq_error_iff, ← count?_isOk_iff, ← exists_and_right]
  simp only [count?_ne_infinite, false_or]
  refine exists_congr fun index => and_congr_right fun _ => ?_
  by_cases hnamed : NamesOutcome n
  · rw [if_pos (hasCounts_iff.mpr hnamed)]
    simp [bind_eq_error_iff, countOrZero?_ne_infinite, hnamed, pure, Except.pure]
  · rw [if_neg (mt hasCounts_iff.mp hnamed), bind_eq_error_iff, percent?_eq_error_iff]
    constructor
    · rintro (⟨_, hinfinite⟩ | ⟨percent, _, h⟩)
      · exact ⟨hnamed, hinfinite⟩
      -- a percentage that is read gives a jump, and none gives another failure
      · cases percent with
        | none => cases h
        | some value => cases h
    · rintro ⟨_, hinfinite⟩
      exact .inl ⟨rfl, hinfinite⟩

theorem switch?_ne_infinite {line : Int} : switch? line n ≠ .error .infiniteCoverage := by
  rw [switch?]
  simp only [ne_eq, bind_eq_error_iff, count?_ne_infinite, numbers?_ne_infinite, false_or,
    not_exists, not_and]
  intro index _ keys _ hits _
  split
  · simp [bind_eq_error_iff, countOrZero?_ne_infinite, pure, Except.pure]
  · simp [throw, throwThe, MonadExceptOf.throw]

/-- **Conditions**: the only failure that is not foreseen is that of an infinite jump. -/
theorem addCondition?_eq_infinite_iff (l : Line) (n : Node) :
    addCondition? l n = .error .infiniteCoverage ↔ InfiniteJump n := by
  rw [addCondition?]
  by_cases hjump : conditionKind n = "jump"
  · rw [if_pos hjump, map_eq_error_iff, jump?_eq_infinite_iff]
    have hkind : OfKind n "jump" := ofKind_iff.mpr hjump
    constructor
    · rintro ⟨hnumber, hunnamed, hpercentage⟩
      exact ⟨hkind, hnumber, hunnamed, hpercentage⟩
    · intro h
      exact ⟨h.number, h.unnamed, h.percentage⟩
  · have hnot : ¬InfiniteJump n := fun h => hjump (ofKind_iff.mp h.kind)
    rw [if_neg hjump, iff_false_right hnot]
    split
    · rw [map_eq_error_iff]
      exact switch?_ne_infinite
    · simp

end Conditions

/-! ## Rows -/

section Rows

variable {n : Node}

/-- A row that is read up to an infinite jump. -/
structure InfiniteRow (n : Node) : Prop where
  read : ¬Skipped n
  hits : n.attribute? "hits" = none ∨ n.attribute? "hits" = some "" ∨ HasCount n "hits"
  conditions : FirstFault IsCondition InfiniteJump (rowConditions n)

theorem line?_eq_infinite_iff (h : ¬Skipped n) (number : Int) :
    line? number n = .error .infiniteCoverage ↔ InfiniteRow n := by
  rw [line?, bind_eq_error_iff]
  simp only [countOrZero?_ne_infinite, false_or]
  have hconditions : ∀ l : Line,
      (n.grandchildrenNamed "conditions" "condition").foldlM addCondition? l =
          .error .infiniteCoverage ↔ FirstFault IsCondition InfiniteJump (rowConditions n) :=
    fun l => foldlM_eq_error_iff addCondition?_isOk_iff addCondition?_eq_infinite_iff _ l
  simp only [hconditions, exists_and_right, countOrZero?_isOk_iff, hits_iff h]
  constructor
  · rintro ⟨hhits, hconds⟩
    exact ⟨h, hhits, hconds⟩
  · intro hrow
    exact ⟨hrow.hits, hrow.conditions⟩

/-- **Rows**: reading them ends at an infinite jump if the rows before it are sound. -/
theorem addRows_eq_infinite_iff {source : String} {c : Class} {rows : List Node} :
    (addRows source c rows).2 = .error .infiniteCoverage ↔
      FirstFault (fun row => ¬Skipped row → IsRow row) InfiniteRow rows := by
  induction rows generalizing c with
  | nil => simp [addRows, not_firstFault_nil]
  | cons row rows ih =>
      rw [addRows, firstFault_cons]
      cases hnumber : rowNumber row with
      | error skip =>
          have hskipped : Skipped row := rowNumber_isError_iff.mp ⟨skip, hnumber⟩
          have hnot : ¬InfiniteRow row := fun h => h.read hskipped
          simp [ih, hskipped, hnot]
      | ok number =>
          have hread : ¬Skipped row := rowNumber_isOk_iff.mp ⟨number, hnumber⟩
          have hrow := isRow_iff hread number
          have hinfinite := line?_eq_infinite_iff hread number
          cases hl : line? number row with
          | error e =>
              have hbad : ¬IsRow row := by
                rw [hrow, not_isOk_iff]
                exact ⟨e, hl⟩
              rw [hl] at hinfinite
              simpa [hl, hread, hbad] using hinfinite
          | ok l =>
              have hgood : IsRow row := hrow.mpr ⟨l, hl⟩
              have hnot : ¬InfiniteRow row := by
                rw [← hinfinite, hl]
                simp
              simp [hl, ih, hgood, hnot]

end Rows

/-! ## Documents -/

section Documents

variable {n : Node}

/-- A class element that is read up to an infinite jump. -/
structure InfiniteClass (n : Node) : Prop where
  name : ∃ raw, n.attribute? "name" = some raw ∧ Text.isBlankString raw = false
  rows : FirstFault (fun row => ¬Skipped row → IsRow row) InfiniteRow (classRows n)

/-- A document that is read up to an infinite jump. -/
structure InfiniteReport (root : Node) : Prop where
  tag : HasReportTag root
  classes : FirstFault IsClass InfiniteClass (classElements root)

theorem isClass_iff {name : String} (h : className? n = some name) (source : String) :
    IsClass n ↔ ∃ c, (addRows source { name } (classRows n)).2 = .ok c := by
  rw [← classSound_iff, ClassSound, h]
  simp only [addRows_eq_ok_iff, Option.isSome_some, true_and, exists_and_left, exists_eq', and_true]

theorem infiniteClass_iff {name : String} (h : className? n = some name) (source : String) :
    InfiniteClass n ↔
      (addRows source { name } (classRows n)).2 = .error .infiniteCoverage := by
  rw [addRows_eq_infinite_iff]
  exact ⟨fun hn => hn.rows, fun hrows => ⟨className?_isSome_iff.mp (by rw [h]; rfl), hrows⟩⟩

/-- **Class elements**: reading them ends at an infinite jump if those before it are sound. -/
theorem addClasses_eq_infinite_iff {source : String} {p : Project} {ns : List Node} :
    (addClasses source p ns).2 = .error .infiniteCoverage ↔
      FirstFault IsClass InfiniteClass ns := by
  induction ns generalizing p with
  | nil => simp [addClasses, not_firstFault_nil]
  | cons n ns ih =>
      have hread : n.grandchildrenNamed "lines" "line" = classRows n := rfl
      rw [addClasses, firstFault_cons]
      cases hname : className? n with
      | none =>
          have hunnamed : ¬∃ raw, n.attribute? "name" = some raw ∧
              Text.isBlankString raw = false := by
            rw [← className?_isSome_iff, hname]
            exact Bool.false_ne_true
          have hbad : ¬IsClass n := fun h => hunnamed h.name
          have hnot : ¬InfiniteClass n := fun h => hunnamed h.name
          simp [hbad, hnot]
      | some name =>
          have hclass := isClass_iff hname source
          have hinfinite := infiniteClass_iff hname source
          simp only [hread]
          rcases hrows : addRows source { name } (classRows n) with ⟨log, e | c⟩
          · rw [hrows] at hclass hinfinite
            simp [hclass, hinfinite]
          · rw [hrows] at hclass hinfinite
            simp [hclass, hinfinite, ih]

/-- **Documents**: the only failure that is not foreseen is an infinite jump before any other
fault. -/
theorem project?_eq_infinite_iff {source : String} {root : Node} :
    project? source root = .error .infiniteCoverage ↔ InfiniteReport root := by
  have hread : root.descendantsNamed "class" = classElements root := rfl
  rw [project?, project, hread]
  by_cases hroot : isRoot root = true
  · have hclasses : (addClasses source .empty (classElements root)).2 =
        .error .infiniteCoverage ↔ FirstFault IsClass InfiniteClass (classElements root) :=
      addClasses_eq_infinite_iff
    have hreport : InfiniteReport root ↔ FirstFault IsClass InfiniteClass (classElements root) :=
      ⟨fun h => h.classes, fun h => ⟨isRoot_iff.mp hroot, h⟩⟩
    rw [if_pos hroot, hreport, ← hclasses]
    rcases addClasses source .empty (classElements root) with ⟨log, e | p⟩
    · rfl
    · simp
  · have hnot : ¬InfiniteReport root := fun h => hroot (isRoot_iff.mpr h.tag)
    rw [if_neg hroot]
    simp [hnot]

/-- The failure is reported as bad data, in its own words. -/
def IsForeseen (e : ReadError) : Prop :=
  Failure.loadHandling (.invalid e) = .foreseen .badData e.message

theorem isForeseen_iff {e : ReadError} : IsForeseen e ↔ e ≠ .infiniteCoverage := by
  have hinfinite : Failure.loadHandling (.invalid .infiniteCoverage) = .unforeseen := rfl
  constructor
  · rintro h rfl
    rw [IsForeseen, hinfinite] at h
    cases h
  · intro h
    cases e with
    | infiniteCoverage => exact absurd rfl h
    | _ => rfl

/-- Every switch that is read can be made. -/
theorem make?_switch? {line : Int} {s : Switch} (h : switch? line n = .ok s) :
    Switch.make? s.index s.keys s.hits s.defaultHits = .ok s :=
  if_pos (switch?_eq_ok h).2

/-- Every line that is read can be asked for. -/
theorem lineOrNew_rowNumber {number : Int} (h : rowNumber n = .ok number) (c : Class)
    (method : Option String) : ∃ l, c.lineOrNew number method = .ok l := by
  have hpos := one_le_of_rowNumber h
  rw [isOk_iff]
  intro e he
  have hneg := (Class.lineOrNew_eq_error_iff.mp he).2.1
  omega

/-- **Failures**: a document is read or reported as bad data exactly if its first fault is no
infinite jump, and the operations on trees behind the reader refuse nothing. -/
theorem read_or_foreseen_iff (source : String) (root : Node) :
    (((∃ p, project? source root = .ok p) ∨
        ∃ e, project? source root = .error e ∧ IsForeseen e) ↔ ¬InfiniteReport root) ∧
      (∀ condition line s, switch? line condition = .ok s →
        Switch.make? s.index s.keys s.hits s.defaultHits = .ok s) ∧
      ∀ row number, rowNumber row = .ok number →
        ∀ (c : Class) method, ∃ l, c.lineOrNew number method = .ok l := by
  refine ⟨?_, fun _ _ _ => make?_switch?, fun _ _ => lineOrNew_rowNumber⟩
  have hinfinite : project? source root = .error .infiniteCoverage ↔ InfiniteReport root :=
    project?_eq_infinite_iff
  rw [← hinfinite]
  simp only [isForeseen_iff]
  cases project? source root with
  | ok p => simp
  | error e => simp

end Documents

end CoverageDiff.Cobertura

namespace CoverageDiff.Sample

open Markup Cobertura

/-- A report whose only jump has an infinite percentage. -/
def infiniteReport : Node :=
  conditionReport [("number", "0"), ("type", "jump"), ("coverage", "inf")]

/-- It is not read, and not reported as bad data. -/
theorem not_read_or_foreseen :
    ¬((∃ p, project? "<xml>" infiniteReport = .ok p) ∨
      ∃ e, project? "<xml>" infiniteReport = .error e ∧ IsForeseen e) := by
  have hread : project? "<xml>" infiniteReport = .error .infiniteCoverage := by decide +kernel
  have hunforeseen : ¬IsForeseen .infiniteCoverage := by simp [isForeseen_iff]
  rw [hread]
  rintro (⟨p, h⟩ | ⟨e, h, hforeseen⟩)
  · cases h
  · cases h
    exact hunforeseen hforeseen

end CoverageDiff.Sample
