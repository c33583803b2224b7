import Mathlib.Data.Prod.Lex
import CoverageDiff.Proofs.Discrepancy

/-!
# CoverageDiff.Proofs.ReportOrder

The order of a report.  Every list of a comparison is strictly ascending by
class, line and index (`Report.ordered_between`), for any two projects: the
walks go over shelves in the order of their keys, and what is reported of one
pairing comes before what is reported of the next.

An ordered report is determined by its elements (`Report.Ordered.ext`).
-/

namespace CoverageDiff

open CoverageDiff.Shelf

/-! ## Before and after -/

/-- What elements of one level are ordered by, in lexicographic order. -/
def Element.position (e : Element) : String ×ₗ Int ×ₗ Int :=
  toLex (e.sortKey.1, toLex e.sortKey.2)

/-- `e` stands before `f`: by class, then by line, then by index. -/
def Element.Before (e f : Element) : Prop :=
  e.position < f.position

/-- Every list of the report is strictly ascending. -/
def Report.Ordered (r : Report) : Prop :=
  ∀ level, (r.level level).Pairwise Element.Before

namespace Element

variable {e f : Element}

theorem before_of_className (h : e.className < f.className) : e.Before f := by
  refine Prod.Lex.toLex_lt_toLex.mpr (Or.inl ?_)
  exact h

theorem before_of_line {m n : Int} (hc : e.className = f.className)
    (he : e.place.line? = some m) (hf : f.place.line? = some n) (h : m < n) : e.Before f := by
  refine Prod.Lex.toLex_lt_toLex.mpr (Or.inr ⟨hc, ?_⟩)
  refine Prod.Lex.toLex_lt_toLex.mpr (Or.inl ?_)
  simp only [sortKey, he, hf, Option.getD_some]
  exact h

theorem before_of_index {n i j : Int} (hc : e.className = f.className)
    (he : e.place = .branch n i) (hf : f.place = .branch n j) (h : i < j) : e.Before f := by
  refine Prod.Lex.toLex_lt_toLex.mpr (Or.inr ⟨hc, ?_⟩)
  refine Prod.Lex.toLex_lt_toLex.mpr (Or.inr ?_)
  simp only [sortKey, he, hf, Place.line?, Place.index?, Option.getD_some]
  exact ⟨trivial, h⟩

end Element

/-! ## One list of pairings -/

section Elements

variable {α κ : Type} [Filed α κ] {className : String} {place : κ → Place}
  {value : α → Option Value}

/-- An element says which class it is in. -/
theorem className_of_element? {p : Pairing α} {e : Element}
    (h : p.element? className (fun a => place (key a)) value = some e) :
    e.className = className := by
  cases p with
  | onlyA a => cases h; rfl
  | onlyB b => cases h; rfl
  | both a b =>
      simp only [Pairing.element?] at h
      split at h
      · contradiction
      · cases h; rfl

/-- An element says where the pairing is. -/
theorem place_of_element? {p : Pairing α} {e : Element}
    (h : p.element? className (fun a => place (key a)) value = some e) :
    e.place = place (key p) := by
  cases p with
  | onlyA a => cases h; rfl
  | onlyB b => cases h; rfl
  | both a b =>
      simp only [Pairing.element?] at h
      split at h
      · contradiction
      · cases h; rfl

variable [LinearOrder κ]

/-- The elements of a list of pairings are ascending if their places are. -/
theorem pairwise_elements (place : κ → Place) {xs ys : List α}
    (hplace : ∀ k l, k < l → ∀ e f : Element, e.className = className → e.place = place k →
      f.className = className → f.place = place l → e.Before f) :
    ((pair xs ys).filterMap
      (Pairing.element? className (fun a => place (key a)) value)).Pairwise Element.Before := by
  refine (ascending_pair xs ys).filterMap _ ?_
  intro p q hlt e he f hf
  exact hplace (key p) (key q) hlt e f (className_of_element? he) (place_of_element? he)
    (className_of_element? hf) (place_of_element? hf)

theorem exists_of_mem_elements (place : κ → Place) {xs ys : List α} {e : Element}
    (h : e ∈ (pair xs ys).filterMap
      (Pairing.element? className (fun a => place (key a)) value)) :
    e.className = className ∧ ∃ k, e.place = place k := by
  obtain ⟨p, _, he⟩ := List.mem_filterMap.mp h
  exact ⟨className_of_element? he, key p, place_of_element? he⟩

end Elements

/-! ## The lists of a line and of a class -/

theorem pairwise_lineElements (a b : Class) : (lineElements a b).Pairwise Element.Before := by
  refine pairwise_elements Place.line ?_
  intro m n hlt e f hec hep hfc hfp
  exact Element.before_of_line (hec.trans hfc.symm) (hep ▸ rfl) (hfp ▸ rfl) hlt

theorem className_of_mem_lineElements {a b : Class} {e : Element} (h : e ∈ lineElements a b) :
    e.className = a.name :=
  (exists_of_mem_elements Place.line h).1

/-- What is reported of the branches of two lines: ascending, and in the place of the lines. -/
structure BranchWalk (f : String → Line → Line → List Element) : Prop where
  /-- The elements are ascending. -/
  ascending : ∀ c la lb, (f c la lb).Pairwise Element.Before
  /-- They belong to the class. -/
  className : ∀ c la lb, ∀ e ∈ f c la lb, e.className = c
  /-- They belong to the line. -/
  line : ∀ c la lb, ∀ e ∈ f c la lb, e.place.line? = some la.number

/-- Branches of any kind are walked in order. -/
theorem branchWalk_elements {α : Type} [Filed α Int] (branches : Line → List α)
    (value : α → Option Value) :
    BranchWalk fun c la lb => (pair (branches la) (branches lb)).filterMap <|
      Pairing.element? c (fun x => .branch la.number (key x)) value where
  ascending := by
    intro c la lb
    refine pairwise_elements (Place.branch la.number) ?_
    intro i j hlt e f hec hep hfc hfp
    exact Element.before_of_index (hec.trans hfc.symm) hep hfp hlt
  className := fun c la lb e he =>
    (exists_of_mem_elements (Place.branch la.number) he).1
  line := by
    intro c la lb e he
    obtain ⟨i, hi⟩ := (exists_of_mem_elements (Place.branch la.number) he).2
    rw [hi, Place.line?]

theorem branchWalk_jumpElements : BranchWalk jumpElements :=
  branchWalk_elements Line.jumps fun j => some j.value

theorem branchWalk_switchElements : BranchWalk switchElements :=
  branchWalk_elements Line.switches fun s => some s.value

namespace BranchWalk

variable {f : String → Line → Line → List Element}

/-- The walk over the shared lines of two classes is ascending. -/
theorem pairwise_lines (hf : BranchWalk f) (c : String) (as bs : List Line) :
    ((shared as bs).flatMap fun (la, lb) => f c la lb).Pairwise Element.Before := by
  refine List.pairwise_flatMap.mpr ⟨fun (la, lb) _ => hf.ascending c la lb, ?_⟩
  refine (pairwise_shared as bs).imp ?_
  intro (la, lb) (ma, mb) hlt e he g hg
  exact Element.before_of_line ((hf.className c la lb e he).trans (hf.className c ma mb g hg).symm)
    (hf.line c la lb e he) (hf.line c ma mb g hg) hlt

/-- The walk over the shared lines of all shared classes is ascending. -/
theorem pairwise_classes (hf : BranchWalk f) (as bs : List Class) :
    ((shared as bs).flatMap fun (ca, cb) =>
      (shared ca.lines cb.lines).flatMap fun (la, lb) => f ca.name la lb).Pairwise
        Element.Before := by
  refine List.pairwise_flatMap.mpr ⟨fun (ca, cb) _ => hf.pairwise_lines ca.name _ _, ?_⟩
  refine (pairwise_shared as bs).imp ?_
  intro (ca, cb) (da, db) hlt e he g hg
  obtain ⟨⟨la, lb⟩, _, he⟩ := List.mem_flatMap.mp he
  obtain ⟨⟨ma, mb⟩, _, hg⟩ := List.mem_flatMap.mp hg
  have hec := hf.className ca.name la lb e he
  have hgc := hf.className da.name ma mb g hg
  exact Element.before_of_className (hec ▸ hgc ▸ hlt)

end BranchWalk

/-! ## The report -/

@[simp] theorem Report.level_map (f : List Element → List Element) (r : Report) (level : Level) :
    (r.map f).level level = f (r.level level) := by
  cases level <;> rfl

theorem pairwise_classes_between (a b : Project) :
    (Report.between a b).classes.Pairwise Element.Before := by
  have hname : ∀ (p : Pairing Class) (e : Element), classElement? p = some e →
      e.className = key p := by
    intro p e he
    cases p with
    | onlyA c => cases he; rfl
    | onlyB c => cases he; rfl
    | both c d => contradiction
  refine (ascending_pair a.classes b.classes).filterMap classElement? ?_
  intro p q hlt e he f hf
  exact Element.before_of_className (hname p e he ▸ hname q f hf ▸ hlt)

theorem pairwise_lines_between (a b : Project) :
    (Report.between a b).lines.Pairwise Element.Before := by
  refine List.pairwise_flatMap.mpr ⟨fun (ca, cb) _ => pairwise_lineElements ca cb, ?_⟩
  refine (pairwise_shared a.classes b.classes).imp ?_
  intro (ca, cb) (da, db) hlt e he f hf
  have hec := className_of_mem_lineElements he
  have hfc := className_of_mem_lineElements hf
  exact Element.before_of_className (hec ▸ hfc ▸ hlt)

/-- **Order of a report**: every list of a comparison is strictly ascending. -/
theorem Report.ordered_between (a b : Project) : (Report.between a b).Ordered := by
  intro level
  cases level with
  | classes => exact pairwise_classes_between a b
  | lines => exact pairwise_lines_between a b
  | jumps => exact branchWalk_jumpElements.pairwise_classes a.classes b.classes
  | switches => exact branchWalk_switchElements.pairwise_classes a.classes b.classes

/-- Two ascending lists with the same elements are the same list. -/
theorem eq_of_pairwise_before {es fs : List Element} (hes : es.Pairwise Element.Before)
    (hfs : fs.Pairwise Element.Before) (h : ∀ e, e ∈ es ↔ e ∈ fs) : es = fs := by
  have hnodup : ∀ {gs : List Element}, gs.Pairwise Element.Before → gs.Nodup :=
    fun hgs => hgs.imp fun hlt heq => ne_of_lt hlt (congrArg Element.position heq)
  have hperm := (List.perm_ext_iff_of_nodup (hnodup hes) (hnodup hfs)).mpr h
  refine hperm.eq_of_pairwise ?_ hes hfs
  intro e f _ _ hef hfe
  exact absurd hfe (lt_asymm hef)

/-- **Extensionality**: an ordered report is determined by its elements. -/
theorem Report.Ordered.ext {r s : Report} (hr : r.Ordered) (hs : s.Ordered)
    (h : ∀ level e, e ∈ r.level level ↔ e ∈ s.level level) : r = s := by
  have hlevel : ∀ level, r.level level = s.level level :=
    fun level => eq_of_pairwise_before (hr level) (hs level) (h level)
  obtain ⟨rc, rl, rj, rs⟩ := r
  obtain ⟨sc, sl, sj, ss⟩ := s
  rw [Report.mk.injEq]
  exact ⟨hlevel .classes, hlevel .lines, hlevel .jumps, hlevel .switches⟩

end CoverageDiff
