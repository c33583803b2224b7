import CoverageDiff.Loading
import CoverageDiff.Proofs.Grammar

/-!
# CoverageDiff.Proofs.Counts

The data model of the projects that are read: class names are neither blank
nor surrounded by blanks, line numbers are positive, indices and counts are
not negative.

The counts that a switch lists for its cases are read without regard to their
sign.  So the data model (`Counted Case`) has a parameter: what is asked of
the counts of cases.  Whatever it is, as long as sums keep it,

1. merging keeps the data model (`Project.Counted.merge`);
2. a document has it if all counts that its switches list do
   (`counted_of_project?`), and so have several files (`counted_of_loadReports`).
-/

namespace CoverageDiff

open CoverageDiff.Shelf

/-! ## The data model -/

/-- The numbers of a jump are not negative. -/
structure Jump.Counted (j : Jump) : Prop where
  index : 0 ≤ j.index
  trueHits : 0 ≤ j.trueHits
  falseHits : 0 ≤ j.falseHits

/-- The index and the default count of a switch are not negative; the counts of its cases are what
is asked of them. -/
structure Switch.Counted (Case : Int → Prop) (s : Switch) : Prop where
  index : 0 ≤ s.index
  hits : ∀ n ∈ s.hits, Case n
  defaultHits : 0 ≤ s.defaultHits

/-- The number of a line is positive, and its counts are not negative. -/
structure Line.Counted (Case : Int → Prop) (l : Line) : Prop where
  number : 1 ≤ l.number
  hits : 0 ≤ l.hits
  jumps : ∀ j ∈ l.jumps, j.Counted
  switches : ∀ s ∈ l.switches, s.Counted Case

/-- A class has a name without blanks around it, and lines. -/
structure Class.Counted (Case : Int → Prop) (c : Class) : Prop where
  name_not_blank : Text.isBlankString c.name = false
  trimmed_name : Text.trimmed c.name = c.name
  lines : ∀ l ∈ c.lines, l.Counted Case

/-- The classes of a project. -/
def Project.Counted (Case : Int → Prop) (p : Project) : Prop :=
  ∀ c ∈ p.classes, c.Counted Case

/-! ## Merging -/

section Merging

variable {Case : Int → Prop} (hadd : ∀ m n, Case m → Case n → Case (m + n))

theorem Jump.Counted.merge {a b : Jump} (ha : a.Counted) (hb : b.Counted) :
    (a.merge b).Counted where
  index := ha.index
  trueHits := Int.add_nonneg ha.trueHits hb.trueHits
  falseHits := Int.add_nonneg ha.falseHits hb.falseHits

include hadd

theorem Switch.Counted.merge {a b : Switch} (ha : a.Counted Case) (hb : b.Counted Case) :
    (a.merge b).Counted Case where
  index := ha.index
  hits := by
    -- the count of a repeated key is one of those given, so only sums are new
    have hzip : ∀ s : Switch, s.Counted Case → ∀ x ∈ s.keys.zip s.hits, Case x.2 :=
      fun s hs x hx => hs.hits x.2 (List.of_mem_zip hx).2
    have hcases : ∀ x ∈ a.cases, Case x.2 := by
      rw [Switch.cases, ofList_eq_merge]
      exact forall_mem_merge (List.forall_mem_nil _) (hzip a ha) fun _ _ _ h => h
    rw [Switch.merge, List.forall_mem_map]
    exact forall_mem_merge hcases (hzip b hb) fun x y => hadd x.2 y.2
  defaultHits := Int.add_nonneg ha.defaultHits hb.defaultHits

theorem Line.Counted.merge {a b : Line} (ha : a.Counted Case) (hb : b.Counted Case) :
    (a.merge b).Counted Case where
  number := ha.number
  hits := Int.add_nonneg ha.hits hb.hits
  jumps := forall_mem_merge ha.jumps hb.jumps fun _ _ hi hj => hi.merge hj
  switches := forall_mem_merge ha.switches hb.switches fun _ _ hs ht => hs.merge hadd ht

theorem Class.Counted.merge {a b : Class} (ha : a.Counted Case) (hb : b.Counted Case) :
    (a.merge b).Counted Case where
  name_not_blank := ha.name_not_blank
  trimmed_name := ha.trimmed_name
  lines := forall_mem_merge ha.lines hb.lines fun _ _ hl hm => hl.merge hadd hm

/-- **Merging** keeps the data model. -/
theorem Project.Counted.merge {p q : Project} (hp : p.Counted Case) (hq : q.Counted Case) :
    (p.merge q).Counted Case :=
  forall_mem_merge hp hq fun _ _ hc hd => hc.merge hadd hd

end Merging

namespace Cobertura

open Markup Files

/-! ## Conditions -/

section Conditions

variable {n : Node}

/-- The counts of cases that a switch lists are what is asked of them. -/
def ListsCases (Case : Int → Prop) (n : Node) : Prop :=
  ∀ hits, ListsNumbers n "hits" hits → ∀ h ∈ hits, Case h

theorem nonneg_of_count? {name : String} {value : Int} (h : count? n name = .ok value) :
    0 ≤ value :=
  (count?_eq_ok_iff.mp h).2

theorem nonneg_of_countOrZero? {name : String} {value : Int}
    (h : countOrZero? n name = .ok value) : 0 ≤ value := by
  rcases countOrZero?_eq_ok_iff.mp h with ⟨_, rfl⟩ | ⟨_, hpos⟩
  · exact Int.le_refl 0
  · exact hpos

theorem counted_jumpOfPercent {index value : Int} (h : 0 ≤ index) :
    (jumpOfPercent index value).Counted := by
  unfold jumpOfPercent
  split
  · exact ⟨h, by simp, by simp⟩
  · split
    · exact ⟨h, by simp, by simp⟩
    · exact ⟨h, by simp, by simp⟩

theorem counted_of_jump? {line : Int} {j : Jump} (h : jump? line n = .ok j) : j.Counted := by
  obtain ⟨hindex, ⟨_, htrue, hfalse⟩ | ⟨_, value, _, hj⟩⟩ := jump?_eq_ok_iff.mp h
  · exact ⟨nonneg_of_count? hindex, nonneg_of_countOrZero? htrue, nonneg_of_countOrZero? hfalse⟩
  · rw [← hj]
    exact counted_jumpOfPercent (nonneg_of_count? hindex)

/-- **Switches** have the data model exactly if the counts that they list do. -/
theorem counted_iff_of_switch? {Case : Int → Prop} {line : Int} {s : Switch}
    (h : switch? line n = .ok s) : s.Counted Case ↔ ListsCases Case n := by
  obtain ⟨hindex, _, hhits, _, hdefault⟩ := switch?_eq_ok_iff.mp h
  constructor
  · intro hs hits hlists
    rw [hlists.unique hhits]
    exact hs.hits
  · intro hn
    exact ⟨nonneg_of_count? hindex, hn s.hits hhits, nonneg_of_countOrZero? hdefault⟩

end Conditions

/-! ## Documents -/

section Documents

variable {Case : Int → Prop} {n : Node}

/-- The counts of cases that the switches of a row list are what is asked of them. -/
def RowListsCases (Case : Int → Prop) (n : Node) : Prop :=
  ¬Skipped n → ∀ condition ∈ rowConditions n, OfKind condition "switch" →
    ListsCases Case condition

/-- The counts of cases that the switches of a document list are what is asked of them. -/
def ReportListsCases (Case : Int → Prop) (root : Node) : Prop :=
  ∀ n ∈ classElements root, ∀ row ∈ classRows n, RowListsCases Case row

/-- A condition keeps the data model. -/
theorem counted_of_addCondition? {l l' : Line} (h : addCondition? l n = .ok l')
    (hl : l.Counted Case) (hn : OfKind n "switch" → ListsCases Case n) : l'.Counted Case := by
  unfold addCondition? at h
  simp only [] at h
  split at h
  · obtain ⟨j, hj, rfl⟩ := map_eq_ok h
    exact ⟨hl.number, hl.hits, forall_mem_put hl.jumps (counted_of_jump? hj), hl.switches⟩
  · split at h
    · next hkind =>
        obtain ⟨s, hs, rfl⟩ := map_eq_ok h
        have hcounted : s.Counted Case :=
          (counted_iff_of_switch? hs).mpr (hn (ofKind_iff.mpr hkind))
        exact ⟨hl.number, hl.hits, hl.jumps, forall_mem_put hl.switches hcounted⟩
    · cases h

theorem counted_of_line? {number : Int} {l : Line} (h : line? number n = .ok l)
    (hnumber : 1 ≤ number)
    (hn : ∀ condition ∈ rowConditions n, OfKind condition "switch" → ListsCases Case condition) :
    l.Counted Case := by
  unfold line? at h
  obtain ⟨hits, hhits, h⟩ := bind_eq_ok h
  refine foldlM_eq_ok (P := Line.Counted Case) ?_ ?_ h
  · intro b b' condition hmem hb hb'
    exact counted_of_addCondition? hb' hb (hn condition hmem)
  · exact ⟨hnumber, nonneg_of_countOrZero? hhits, List.forall_mem_nil _, List.forall_mem_nil _⟩

/-- **Rows**: the line of one has the data model. -/
theorem counted_of_rowLine? {l : Line} (h : rowLine? n = some l) (hn : RowListsCases Case n) :
    l.Counted Case := by
  obtain ⟨number, hnumber, hl⟩ := rowLine?_eq_some h
  have hread : ¬Skipped n := rowNumber_isOk_iff.mp ⟨number, hnumber⟩
  exact counted_of_line? hl (one_le_of_rowNumber hnumber) (hn hread)

theorem name_of_className? {name : String} (h : className? n = some name) :
    Text.isBlankString name = false ∧ Text.trimmed name = name := by
  obtain ⟨htrimmed, hne⟩ := Option.filter_eq_some_iff.mp h
  obtain ⟨raw, _, rfl⟩ := Option.map_eq_some_iff.mp htrimmed
  have htwice := Text.trimmed_trimmed raw
  refine ⟨?_, htwice⟩
  rw [Bool.eq_false_iff, ne_eq, ← Text.trimmed_eq_empty_iff, htwice]
  exact bne_iff_ne.mp hne

variable (hadd : ∀ m n, Case m → Case n → Case (m + n))
include hadd

/-- **Class elements**: the class of one has the data model. -/
theorem counted_classOf (h : ClassSound n) (hn : ∀ row ∈ classRows n, RowListsCases Case row) :
    (classOf n).Counted Case := by
  obtain ⟨name, hname⟩ := Option.isSome_iff_exists.mp h.1
  obtain ⟨hblank, htrimmed⟩ := name_of_className? hname
  rw [classOf_eq hname]
  refine ⟨hblank, htrimmed, ?_⟩
  refine forall_mem_merge (List.forall_mem_nil _) ?_ fun _ _ hl hm => hl.merge hadd hm
  intro l hl
  obtain ⟨row, hrow, hline⟩ := List.mem_filterMap.mp hl
  exact counted_of_rowLine? hline (hn row hrow)

/-- **Documents**: the project of one has the data model if the counts that it lists do. -/
theorem counted_of_project? {source : String} {root : Node} {p : Project}
    (h : project? source root = .ok p) (hroot : ReportListsCases Case root) :
    p.Counted Case := by
  obtain ⟨_, hsound, rfl⟩ := project?_eq_ok_iff.mp h
  refine forall_mem_merge (List.forall_mem_nil _) ?_ fun _ _ hc hd => hc.merge hadd hd
  rw [List.forall_mem_map]
  exact fun n hn => counted_classOf hadd (hsound n hn) (hroot n hn)

end Documents

/-! ## Files -/

section Files

variable {Case : Int → Prop} {w : Workspace}

theorem andThen_eq_ok {ε α β : Type} {x : Logged ε α} {next : α → Logged ε β} {b : β}
    (h : (x.andThen next).2 = .ok b) : ∃ a, x.2 = .ok a ∧ (next a).2 = .ok b := by
  obtain ⟨log, e | a⟩ := x
  · cases h
  · exact ⟨a, rfl, h⟩

/-- A file that is loaded holds a document that is read. -/
theorem loadReport_eq_ok {path : Path} {p : Project} (h : (loadReport w path).2 = .ok p) :
    ∃ bytes root, w.read path = .ok bytes ∧ ofBytes? bytes = .ok root ∧
      project? path.text root = .ok p := by
  unfold loadReport at h
  split at h
  · cases h
  · cases h
  · split at h
    · cases h
    · next bytes hbytes =>
        unfold projectOfDocument at h
        split at h
        · cases h
        · next root hroot =>
            refine ⟨bytes, root, hbytes, hroot, ?_⟩
            rw [project?]
            cases hp : (project path.text root).2 with
            | error e => simp [Logged.mapError, hp, Except.mapError] at h
            | ok q => simpa [Logged.mapError, hp, Except.mapError] using h

/-- The counts of cases that the documents of the files list are what is asked of them. -/
def FilesListCases (Case : Int → Prop) (w : Workspace) (paths : List Path) : Prop :=
  ∀ path ∈ paths, ∀ bytes root, w.read path = .ok bytes → ofBytes? bytes = .ok root →
    ReportListsCases Case root

theorem counted_of_loadInto (hadd : ∀ m n, Case m → Case n → Case (m + n)) {paths : List Path}
    {p q : Project} (h : (loadInto w p paths).2 = .ok q) (hp : p.Counted Case)
    (hpaths : FilesListCases Case w paths) : q.Counted Case := by
  induction paths generalizing p with
  | nil =>
      cases h
      exact hp
  | cons path more ih =>
      obtain ⟨hpath, hmore⟩ := List.forall_mem_cons.mp hpaths
      obtain ⟨r, hr, hrest⟩ := andThen_eq_ok h
      obtain ⟨bytes, root, hread, hroot, hproject⟩ := loadReport_eq_ok hr
      have hcounted : r.Counted Case :=
        counted_of_project? hadd hproject (hpath bytes root hread hroot)
      exact ih hrest (hp.merge hadd hcounted) hmore

/-- **Files**: the project of several has the data model if the counts that they list do. -/
theorem counted_of_loadReports (hadd : ∀ m n, Case m → Case n → Case (m + n))
    {paths : List Path} {p : Project} (h : (loadReports w paths).2 = .ok p)
    (hpaths : FilesListCases Case w paths) : p.Counted Case :=
  counted_of_loadInto hadd h (List.forall_mem_nil _) hpaths

/-- Nothing is asked of the counts of cases. -/
def AnyCase (_ : Int) : Prop := True

/-- The counts of cases are not negative. -/
def NonnegCase (n : Int) : Prop := 0 ≤ n

theorem reportListsCases_anyCase (root : Node) : ReportListsCases AnyCase root :=
  fun _ _ _ _ _ _ _ _ _ _ _ _ => trivial

/-- **The data model**: documents that are read and files that are loaded have it but for the counts
of cases; they have all of it if no switch lists a negative count, and a switch that is read has it
only then. -/
theorem counted_of_read (source : String) (root : Node) (w : Workspace) (paths : List Path) :
    (∀ p, project? source root = .ok p →
        p.Counted AnyCase ∧ (ReportListsCases NonnegCase root → p.Counted NonnegCase)) ∧
      (∀ p, (loadReports w paths).2 = .ok p →
        p.Counted AnyCase ∧ (FilesListCases NonnegCase w paths → p.Counted NonnegCase)) ∧
      ∀ condition line s, switch? line condition = .ok s →
        (s.Counted NonnegCase ↔ ListsCases NonnegCase condition) := by
  have hany : ∀ m n, AnyCase m → AnyCase n → AnyCase (m + n) := fun _ _ _ _ => trivial
  have hadd : ∀ m n, NonnegCase m → NonnegCase n → NonnegCase (m + n) :=
    fun _ _ => Int.add_nonneg
  refine ⟨fun p hp => ⟨?_, counted_of_project? hadd hp⟩,
    fun p hp => ⟨?_, counted_of_loadReports hadd hp⟩, fun _ _ _ => counted_iff_of_switch?⟩
  · exact counted_of_project? hany hp (reportListsCases_anyCase root)
  · exact counted_of_loadReports hany hp fun _ _ _ root _ _ => reportListsCases_anyCase root

end Files

end Cobertura

namespace Sample

open Markup Cobertura

/-- A report whose only switch lists a negative count. -/
def negativeReport : Node :=
  conditionReport [("number", "0"), ("type", "switch"), ("keys", "7"), ("hits", "-1")]

/-- Its switch. -/
def negativeSwitch : Switch := ⟨0, [7], [-1], 0⟩

/-- Its line. -/
def negativeLine : Line := { number := 4, hits := 2, switches := [negativeSwitch] }

/-- Its project. -/
def negativeProject : Project := { classes := [{ name := "A", lines := [negativeLine] }] }

/-- It is read, and a count is negative. -/
theorem read_not_counted :
    ∃ p, project? "<xml>" negativeReport = .ok p ∧ ¬p.Counted NonnegCase := by
  refine ⟨negativeProject, by decide +kernel, fun h => ?_⟩
  have hclass := h _ List.mem_cons_self
  have hline : negativeLine.Counted NonnegCase := hclass.lines _ List.mem_cons_self
  have hswitch : negativeSwitch.Counted NonnegCase := hline.switches _ List.mem_cons_self
  have hnonneg : (0 : Int) ≤ -1 := hswitch.hits (-1) List.mem_cons_self
  omega

end Sample

end CoverageDiff
