import CoverageDiff.Proofs.ReportOrder

/-!
# CoverageDiff.Proofs.Faithful

What a report tells of the second side.  For a given first side, second sides
with the same report are the same wherever the report looks: they differ at
most below a class or line that the report says was added
(`Report.between_faithful`).

* one place: `Differs.eq_of_forall_iff` takes what the second side holds from
  what the first side holds and from what is reported;
* the levels: `isSome_view_of_between_eq`, `status_eq_of_between_eq` and
  `branch_eq_of_between_eq` read the classes, the statuses and the branches of the
  second side off the report.
-/

namespace CoverageDiff

open CoverageDiff.Shelf

/-! ## One place -/

/-- What is held has a value that stands for it. -/
def Shown {β : Type} (shows : β → Value → Prop) (x : Option β) : Prop :=
  ∀ s, x = some s → ∃ v, shows s v

/-- A value stands for one thing only. -/
def ShowsOne {β : Type} (shows : β → Value → Prop) : Prop :=
  ∀ s t v, shows s v → shows t v → s = t

namespace Differs

variable {β : Type} {className : String} {place : Place} {shows : β → Value → Prop}
  {x y z : Option β} {e : Element}

theorem className_eq (h : Differs className place shows x y e) : e.className = className := by
  cases h <;> rfl

theorem place_eq (h : Differs className place shows x y e) : e.place = place := by
  cases h <;> rfl

/-- Only what is held differently is reported. -/
theorem ne (h : Differs className place shows x y e) : x ≠ y := by
  cases h with
  | removed hx hy _ => simp [hx, hy]
  | added hx hy _ => simp [hx, hy]
  | changed hx hy hne _ _ => simpa [hx, hy] using hne

/-- What is held differently is reported. -/
theorem exists_of_ne (hx : Shown shows x) (hy : Shown shows y) (h : x ≠ y) :
    ∃ e, Differs className place shows x y e := by
  cases x with
  | none =>
      cases y with
      | none => exact absurd rfl h
      | some t =>
          obtain ⟨w, hw⟩ := hy t rfl
          exact ⟨_, .added rfl rfl hw⟩
  | some s =>
      obtain ⟨v, hv⟩ := hx s rfl
      cases y with
      | none => exact ⟨_, .removed rfl rfl hv⟩
      | some t =>
          obtain ⟨w, hw⟩ := hy t rfl
          have hne : s ≠ t := fun hst => h (congrArg some hst)
          exact ⟨_, .changed rfl rfl hne hv hw⟩

/-- What one second side holds the other holds too, if the same is reported of both. -/
theorem eq_some_of_forall_iff (hone : ShowsOne shows) (hx : Shown shows x) (hy : Shown shows y)
    (hz : Shown shows z)
    (h : ∀ e, Differs className place shows x y e ↔ Differs className place shows x z e) {t : β}
    (ht : y = some t) : z = some t := by
  obtain ⟨w, hw⟩ := hy t ht
  by_cases hxt : x = some t
  · -- Nothing is reported of `y`; of another `z` something would be.
    by_contra hzt
    have hne : x ≠ z := fun hxz => hzt (hxz.symm.trans hxt)
    obtain ⟨e, he⟩ := exists_of_ne hx hz hne
    exact ((h e).mpr he).ne (hxt.trans ht.symm)
  · cases hxs : x with
    | none =>
        have hadded := (h _).mp (.added hxs ht hw)
        cases hadded with
        | added _ hzu hwu => rw [hzu, hone _ _ _ hwu hw]
    | some s =>
        obtain ⟨v, hv⟩ := hx s hxs
        have hst : s ≠ t := fun heq => hxt (hxs.trans (congrArg some heq))
        have hchanged := (h _).mp (.changed hxs ht hst hv hw)
        cases hchanged with
        | changed _ hzu _ _ hwu => rw [hzu, hone _ _ _ hwu hw]

/-- **One place**: the second side is determined by the first and by what is reported. -/
theorem eq_of_forall_iff (hone : ShowsOne shows) (hx : Shown shows x) (hy : Shown shows y)
    (hz : Shown shows z)
    (h : ∀ e, Differs className place shows x y e ↔ Differs className place shows x z e) :
    y = z := by
  apply Option.ext
  intro t
  constructor
  · exact eq_some_of_forall_iff hone hx hy hz h
  · exact eq_some_of_forall_iff hone hx hz hy fun e => (h e).symm

end Differs

/-! ## Values of statuses, jumps and switches -/

theorem shown_status (x : Option Status) : Shown (fun s v => v = .status s) x :=
  fun s _ => ⟨.status s, rfl⟩

theorem showsOne_status : ShowsOne fun s v => v = Value.status s := by
  rintro s t v rfl ht
  exact Value.status.inj ht

theorem shown_outcome (x : Option (Bool × Bool)) : Shown (fun o v => v = .outcome o) x :=
  fun o _ => ⟨.outcome o, rfl⟩

theorem showsOne_outcome : ShowsOne fun o v => v = Value.outcome o := by
  rintro o q v rfl hq
  simpa [Value.outcome, Prod.ext_iff] using hq

/-- What a switch of a line covers has a listing. -/
theorem shown_covered (l : Line) (i : Int) : Shown ListsValue (l.view.covered i) := by
  intro s hs
  obtain ⟨t, _, rfl⟩ := Option.map_eq_some_iff.mp hs
  exact ⟨t.value, Switch.listsValue_iff.mpr rfl⟩

theorem showsOne_covered : ShowsOne ListsValue := by
  rintro s t v ⟨xs, hxs, rfl⟩ ⟨ys, hys, hv⟩
  ext label
  rw [← hxs.mem_iff, Value.cases_inj.mp hv, hys.mem_iff]

/-! ## The levels -/

section Levels

variable {a b c : Project} {name : String}

/-- Second sides with one report have the same classes. -/
theorem isSome_view_of_between_eq (ha : a.Distinct) (hb : b.Distinct) (hc : c.Distinct)
    (h : Report.between a b = Report.between a c) (hname : (b.view name).isSome) :
    (c.view name).isSome := by
  cases hva : a.view name with
  | none =>
      have hadded := (Report.hasClass_added_iff ha hb).mpr ⟨hva, hname⟩
      rw [h] at hadded
      exact ((Report.hasClass_added_iff ha hc).mp hadded).2
  | some va =>
      by_contra hnone
      have hvc : c.view name = none := by simpa using hnone
      have hremoved := (Report.hasClass_removed_iff ha hc).mpr ⟨Option.isSome_of_eq_some hva, hvc⟩
      rw [← h] at hremoved
      have hvb := ((Report.hasClass_removed_iff ha hb).mp hremoved).2
      simp [hvb] at hname

/-- What is reported of one line of a shared class. -/
theorem differs_line_iff (ha : a.Distinct) (hb : b.Distinct) (hsa : (a.view name).isSome)
    (hsb : (b.view name).isSome) {n : Int} {e : Element} :
    Differs name (.line n) (fun s v => v = .status s)
        ((a.view.line? name n).map LineView.status) ((b.view.line? name n).map LineView.status) e ↔
      e ∈ (Report.between a b).lines ∧ e.className = name ∧ e.place = .line n := by
  rw [mem_lines_between ha hb]
  constructor
  · intro h
    exact ⟨⟨name, n, hsa, hsb, h⟩, h.className_eq, h.place_eq⟩
  · rintro ⟨⟨d, m, _, _, h⟩, hname, hplace⟩
    rw [h.className_eq] at hname
    rw [h.place_eq, Place.line.injEq] at hplace
    rw [hname, hplace] at h
    exact h

/-- Second sides with one report have the same statuses in a class of the first side. -/
theorem status_eq_of_between_eq (ha : a.Distinct) (hb : b.Distinct) (hc : c.Distinct)
    (h : Report.between a b = Report.between a c) (hsa : (a.view name).isSome)
    (hsb : (b.view name).isSome) (hsc : (c.view name).isSome) (n : Int) :
    (b.view.line? name n).map LineView.status = (c.view.line? name n).map LineView.status := by
  refine Differs.eq_of_forall_iff showsOne_status (shown_status _) (shown_status _)
    (shown_status _) fun e => (differs_line_iff ha hb hsa hsb).trans ?_
  rw [h, differs_line_iff ha hc hsa hsc]

/-- `es` is what the branches of shared lines are reported as; `read` is what is compared of a
branch. -/
def ReportsBranches {β : Type} (shows : β → Value → Prop) (read : LineView → Int → Option β)
    (a b : ProjectView) (es : List Element) : Prop :=
  ∀ e, e ∈ es ↔ ∃ c n va vb, a.line? c n = some va ∧ b.line? c n = some vb ∧
    ∃ i, Differs c (.branch n i) shows (read va i) (read vb i) e

variable {β : Type} {shows : β → Value → Prop} {read : LineView → Int → Option β}
  {va vb vc : LineView} {n i : Int} {es fs : List Element}

/-- What is reported of one branch of a shared line. -/
theorem ReportsBranches.differs_iff (h : ReportsBranches shows read a.view b.view es)
    (hva : a.view.line? name n = some va) (hvb : b.view.line? name n = some vb) {e : Element} :
    Differs name (.branch n i) shows (read va i) (read vb i) e ↔
      e ∈ es ∧ e.className = name ∧ e.place = .branch n i := by
  rw [h e]
  constructor
  · intro hd
    exact ⟨⟨name, n, va, vb, hva, hvb, i, hd⟩, hd.className_eq, hd.place_eq⟩
  · rintro ⟨⟨d, m, wa, wb, hwa, hwb, j, hd⟩, hname, hplace⟩
    rw [hd.className_eq] at hname
    rw [hd.place_eq, Place.branch.injEq] at hplace
    obtain ⟨rfl, rfl⟩ := hplace
    subst hname
    rw [hva, Option.some.injEq] at hwa
    rw [hvb, Option.some.injEq] at hwb
    rw [hwa, hwb]
    exact hd

/-- Second sides with one report have the same branches on a line of the first side. -/
theorem branch_eq_of_between_eq (hone : ShowsOne shows)
    (hshown : ∀ (l : Line) i, Shown shows (read l.view i))
    (hab : ReportsBranches shows read a.view b.view es)
    (hac : ReportsBranches shows read a.view c.view es) (hva : a.view.line? name n = some va)
    (hvb : b.view.line? name n = some vb) (hvc : c.view.line? name n = some vc) :
    read vb i = read vc i := by
  obtain ⟨la, _, rfl⟩ := Project.view_line?_eq_some_iff.mp hva
  obtain ⟨lb, _, rfl⟩ := Project.view_line?_eq_some_iff.mp hvb
  obtain ⟨lc, _, rfl⟩ := Project.view_line?_eq_some_iff.mp hvc
  refine Differs.eq_of_forall_iff hone (hshown la i) (hshown lb i) (hshown lc i)
    fun e => (hab.differs_iff hva hvb).trans ?_
  rw [hac.differs_iff hva hvc]

/-- What is reported of the branches of two second sides with one report lies below an added
class or line. -/
theorem adds_of_mem_branches (ha : a.Distinct) (hb : b.Distinct) (hone : ShowsOne shows)
    (hshown : ∀ (l : Line) i, Shown shows (read l.view i))
    (hab : ReportsBranches shows read a.view b.view es)
    (hac : ReportsBranches shows read a.view c.view es)
    (hbc : ReportsBranches shows read b.view c.view fs) {e : Element} (he : e ∈ fs) :
    (Report.between a b).HasClass .added e.className ∨
      ∃ n, e.place.line? = some n ∧ (Report.between a b).HasLine .added e.className n := by
  obtain ⟨name, n, vb, vc, hvb, hvc, i, hd⟩ := (hbc e).mp he
  have hsb : (b.view name).isSome := ProjectView.isSome_of_line? hvb
  rw [hd.className_eq, hd.place_eq]
  cases hca : a.view name with
  | none => exact Or.inl ((Report.hasClass_added_iff ha hb).mpr ⟨hca, hsb⟩)
  | some ca =>
      refine Or.inr ⟨n, rfl, ?_⟩
      cases hna : a.view.line? name n with
      | none => exact Report.hasLine_added ha hb (Option.isSome_of_eq_some hca) hna hvb
      | some va => exact absurd (branch_eq_of_between_eq hone hshown hab hac hna hvb hvc) hd.ne

end Levels

/-- **Faithfulness**: if projects that operations can give, their classes and lines held in any
order, have the same report against one first side, then they have the same classes, and what is
reported of one against the other lies in a class that was added or, of branches, on a line that
was added. -/
theorem Report.between_faithful {a b c : Project} (ha : a.Stored) (hb : b.Stored) (hc : c.Stored)
    (h : between a b = between a c) :
    (between b c).classes = [] ∧
      (∀ e ∈ (between b c).lines, (between a b).HasClass .added e.className) ∧
      ∀ e ∈ (between b c).jumps ++ (between b c).switches,
        (between a b).HasClass .added e.className ∨
          ∃ n, e.place.line? = some n ∧ (between a b).HasLine .added e.className n := by
  have hda := ha.distinct
  have hdb := hb.distinct
  have hdc := hc.distinct
  refine ⟨?_, ?_, ?_⟩
  · rw [List.eq_nil_iff_forall_not_mem]
    intro e he
    have hmem : e ∈ (between b c).level .classes := he
    cases discrepancy_of_mem hdb hdc hmem with
    | classRemoved hsb hnc =>
        have hsc := isSome_view_of_between_eq hda hdb hdc h hsb
        simp [hnc] at hsc
    | classAdded hnb hsc =>
        have hsb := isSome_view_of_between_eq hda hdc hdb h.symm hsc
        simp [hnb] at hsb
  · intro e he
    obtain ⟨name, n, hsb, hsc, hd⟩ := (mem_lines_between hdb hdc).mp he
    rw [hd.className_eq]
    cases hca : a.view name with
    | none => exact (hasClass_added_iff hda hdb).mpr ⟨hca, hsb⟩
    | some ca =>
        have hsa : (a.view name).isSome := Option.isSome_of_eq_some hca
        exact absurd (status_eq_of_between_eq hda hdb hdc h hsa hsb hsc n) hd.ne
  · intro e he
    cases List.mem_append.mp he with
    | inl hjump =>
        refine adds_of_mem_branches hda hdb showsOne_outcome (fun l i => shown_outcome _)
          (fun _ => mem_jumps_between hda hdb) (fun _ => ?_)
          (fun _ => mem_jumps_between hdb hdc) hjump
        rw [h]
        exact mem_jumps_between hda hdc
    | inr hswitch =>
        refine adds_of_mem_branches hda hdb showsOne_covered shown_covered
          (fun _ => mem_switches_between hda hdb) (fun _ => ?_)
          (fun _ => mem_switches_between hdb hdc) hswitch
        rw [h]
        exact mem_switches_between hda hdc

namespace Sample

/-- The run `later` with other coverage below the class and the line that `earlier` lacks. -/
def laterBelow : Project where
  classes :=
    [{ name := "org.example.Baz", lines := [{ number := 1 }, { number := 2, hits := 3 }] },
      { name := "org.example.Foo",
        lines :=
          [{ number := 3, hits := 7, method := some "run", jumps := [⟨0, 1, 1⟩],
             switches := [⟨1, [7, 2], [4, 9], 2⟩] },
            { number := 9, hits := 2, jumps := [⟨0, 1, 1⟩] }] }]

theorem reachable_laterBelow : laterBelow.Reachable := by decide

/-- Against `earlier` the two runs have one report; what they differ in lies in the added class and
on the added line. -/
theorem between_later_laterBelow :
    Report.between earlier later = Report.between earlier laterBelow ∧
      (Report.between later laterBelow).size = 3 ∧
      (∀ e ∈ (Report.between later laterBelow).lines,
        (Report.between earlier later).HasClass .added e.className) ∧
      ∀ e ∈ (Report.between later laterBelow).jumps ++ (Report.between later laterBelow).switches,
        (Report.between earlier later).HasClass .added e.className ∨
          ∃ n, e.place.line? = some n ∧
            (Report.between earlier later).HasLine .added e.className n := by
  have hsame : Report.between earlier later = Report.between earlier laterBelow := by
    decide +kernel
  obtain ⟨_, hlines, hbranches⟩ := Report.between_faithful reachable_earlier.stored
    reachable_later.stored reachable_laterBelow.stored hsame
  have hsize : (Report.between later laterBelow).size = 3 := by decide +kernel
  exact ⟨hsame, hsize, hlines, hbranches⟩

end Sample

end CoverageDiff
