import CoverageDiff.Proofs.Matching
import CoverageDiff.Proofs.View
import CoverageDiff.Comparison

/-!
# CoverageDiff.Proofs.Discrepancy

Soundness and completeness of the comparison.  `Discrepancy a b level e` says,
of the views of two trees alone, that `e` is to be reported at `level`; it has
one constructor for each kind of element.  The main statement is
`mem_level_between`: a report has exactly these elements.

The proof is layered like the report:

* one list of pairings: `mem_elements_iff`, for any values that carry a key;
* the walks: `mem_lines_between`, `mem_jumps_between`, `mem_switches_between`;
* the levels: `discrepancy_of_mem` and `mem_of_discrepancy`.
-/

namespace CoverageDiff

open CoverageDiff.Shelf

/-! ## What is to be reported -/

/-- `e` is to be reported at a level when trees with the views `a` and `b` are compared.  Whatever
lies below a class or line that one side lacks is not. -/
inductive Discrepancy (a b : ProjectView) : Level → Element → Prop
  /-- A class that only the first side has. -/
  | classRemoved {c : String} (ha : (a c).isSome) (hb : b c = none) :
      Discrepancy a b .classes { className := c, kind := .removed }
  /-- A class that only the second side has. -/
  | classAdded {c : String} (ha : a c = none) (hb : (b c).isSome) :
      Discrepancy a b .classes { className := c, kind := .added }
  /-- A line of a shared class that only the first side has. -/
  | lineRemoved {c : String} {n : Int} {la : LineView} (hc : (b c).isSome)
      (ha : a.line? c n = some la) (hb : b.line? c n = none) :
      Discrepancy a b .lines
        { className := c, kind := .removed, place := .line n, before := some (.status la.status) }
  /-- A line of a shared class that only the second side has. -/
  | lineAdded {c : String} {n : Int} {lb : LineView} (hc : (a c).isSome)
      (ha : a.line? c n = none) (hb : b.line? c n = some lb) :
      Discrepancy a b .lines
        { className := c, kind := .added, place := .line n, after := some (.status lb.status) }
  /-- A shared line with another status. -/
  | lineChanged {c : String} {n : Int} {la lb : LineView} (ha : a.line? c n = some la)
      (hb : b.line? c n = some lb) (hne : la.status ≠ lb.status) :
      Discrepancy a b .lines
        { className := c, kind := .changed, place := .line n, before := some (.status la.status),
          after := some (.status lb.status) }
  /-- A jump of a shared line that only the first side has. -/
  | jumpRemoved {c : String} {n i : Int} {la lb : LineView} {o : Bool × Bool}
      (ha : a.line? c n = some la) (hb : b.line? c n = some lb)
      (hja : la.outcome i = some o) (hjb : lb.outcome i = none) :
      Discrepancy a b .jumps
        { className := c, kind := .removed, place := .branch n i, before := some (.outcome o) }
  /-- A jump of a shared line that only the second side has. -/
  | jumpAdded {c : String} {n i : Int} {la lb : LineView} {o : Bool × Bool}
      (ha : a.line? c n = some la) (hb : b.line? c n = some lb)
      (hja : la.outcome i = none) (hjb : lb.outcome i = some o) :
      Discrepancy a b .jumps
        { className := c, kind := .added, place := .branch n i, after := some (.outcome o) }
  /-- A shared jump with another outcome. -/
  | jumpChanged {c : String} {n i : Int} {la lb : LineView} {oa ob : Bool × Bool}
      (ha : a.line? c n = some la) (hb : b.line? c n = some lb)
      (hja : la.outcome i = some oa) (hjb : lb.outcome i = some ob) (hne : oa ≠ ob) :
      Discrepancy a b .jumps
        { className := c, kind := .changed, place := .branch n i, before := some (.outcome oa),
          after := some (.outcome ob) }
  /-- A switch of a shared line that only the first side has. -/
  | switchRemoved {c : String} {n i : Int} {la lb : LineView} {s : Set String} {xs : List String}
      (ha : a.line? c n = some la) (hb : b.line? c n = some lb)
      (hsa : la.covered i = some s) (hsb : lb.covered i = none) (hxs : Lists xs s) :
      Discrepancy a b .switches
        { className := c, kind := .removed, place := .branch n i, before := some (.cases xs) }
  /-- A switch of a shared line that only the second side has. -/
  | switchAdded {c : String} {n i : Int} {la lb : LineView} {s : Set String} {xs : List String}
      (ha : a.line? c n = some la) (hb : b.line? c n = some lb)
      (hsa : la.covered i = none) (hsb : lb.covered i = some s) (hxs : Lists xs s) :
      Discrepancy a b .switches
        { className := c, kind := .added, place := .branch n i, after := some (.cases xs) }
  /-- A shared switch that covers other labels. -/
  | switchChanged {c : String} {n i : Int} {la lb : LineView} {s t : Set String}
      {xs ys : List String} (ha : a.line? c n = some la) (hb : b.line? c n = some lb)
      (hsa : la.covered i = some s) (hsb : lb.covered i = some t) (hne : s ≠ t)
      (hxs : Lists xs s) (hys : Lists ys t) :
      Discrepancy a b .switches
        { className := c, kind := .changed, place := .branch n i, before := some (.cases xs),
          after := some (.cases ys) }

/-! ## Values -/

theorem Line.value_eq_iff {l m : Line} : l.value = m.value ↔ l.status = m.status := by
  rw [Line.value, Line.value, Value.status.injEq]

theorem Jump.value_eq_iff {j k : Jump} : j.value = k.value ↔ j.outcome = k.outcome := by
  simp [Jump.value, Value.outcome, Prod.ext_iff]

/-- Labels are read back from their value. -/
theorem Value.cases_inj {xs ys : List String} : Value.cases xs = Value.cases ys ↔ xs = ys := by
  have hinj : Function.Injective (List.map Mark.label) :=
    List.map_injective_iff.mpr fun _ _ h => Mark.label.inj h
  rw [Value.cases, Value.cases, Value.marks.injEq, hinj.eq_iff]

theorem Switch.value_eq_iff {s t : Switch} : s.value = t.value ↔ s.covered = t.covered := by
  rw [Switch.value, Switch.value, Value.cases_inj, Switch.coveredCases_eq_iff]

/-- `v` is the value for a set of covered labels. -/
def ListsValue (s : Set String) (v : Value) : Prop :=
  ∃ xs, Lists xs s ∧ v = .cases xs

theorem Switch.listsValue_iff {s : Switch} {v : Value} : ListsValue s.covered v ↔ v = s.value := by
  constructor
  · rintro ⟨xs, hxs, rfl⟩
    rw [hxs.unique s.lists_coveredCases, Switch.value]
  · rintro rfl
    exact ⟨s.coveredCases, s.lists_coveredCases, rfl⟩

/-! ## One list of pairings -/

section Elements

variable {α β κ : Type} [Filed α κ]

/-- `e` is what a place is reported as where the sides hold `x` and `y`; `shows s v` says that the
value `v` stands for `s`. -/
inductive Differs (className : String) (place : Place) (shows : β → Value → Prop)
    (x y : Option β) : Element → Prop
  /-- Only the first side holds something. -/
  | removed {s : β} {v : Value} (hx : x = some s) (hy : y = none) (hv : shows s v) :
      Differs className place shows x y { className, kind := .removed, place, before := some v }
  /-- Only the second side holds something. -/
  | added {t : β} {w : Value} (hx : x = none) (hy : y = some t) (hw : shows t w) :
      Differs className place shows x y { className, kind := .added, place, after := some w }
  /-- The sides hold something different. -/
  | changed {s t : β} {v w : Value} (hx : x = some s) (hy : y = some t) (hne : s ≠ t)
      (hv : shows s v) (hw : shows t w) :
      Differs className place shows x y
        { className, kind := .changed, place, before := some v, after := some w }

variable {className : String} {place : κ → Place} {value : α → Value} {f : α → β}
  {shows : β → Value → Prop} {e : Element}

/-- The pairing of what the sides hold under a key is reported exactly as it is to be, if values
stand for what `f` reads of what is held. -/
theorem element?_eq_some_iff (hshows : ∀ a v, shows (f a) v ↔ v = value a)
    (hvalue : ∀ a b, value a = value b ↔ f a = f b) {x y : Option α} {k : κ}
    (hx : ∀ a, x = some a → key a = k) (hy : ∀ b, y = some b → key b = k) :
    (∃ p, Pairing.of? x y = some p ∧
      p.element? className (fun a => place (key a)) (fun a => some (value a)) = some e) ↔
      Differs className (place k) shows (x.map f) (y.map f) e := by
  constructor
  · rintro ⟨p, hp, he⟩
    cases p with
    | onlyA a =>
        obtain ⟨rfl, rfl⟩ := Pairing.of?_eq_onlyA_iff.mp hp
        rw [Pairing.element?, hx a rfl, Option.some.injEq] at he
        rw [← he]
        exact .removed rfl rfl ((hshows a _).mpr rfl)
    | onlyB b =>
        obtain ⟨rfl, rfl⟩ := Pairing.of?_eq_onlyB_iff.mp hp
        rw [Pairing.element?, hy b rfl, Option.some.injEq] at he
        rw [← he]
        exact .added rfl rfl ((hshows b _).mpr rfl)
    | both a b =>
        obtain ⟨rfl, rfl⟩ := Pairing.of?_eq_both_iff.mp hp
        by_cases hf : f a = f b
        · rw [Pairing.element?, if_pos (congrArg some ((hvalue a b).mpr hf))] at he
          contradiction
        · have hne : some (value a) ≠ some (value b) :=
            fun h => hf ((hvalue a b).mp (Option.some.inj h))
          rw [Pairing.element?, if_neg hne, hx a rfl, Option.some.injEq] at he
          rw [← he]
          exact .changed rfl rfl hf ((hshows a _).mpr rfl) ((hshows b _).mpr rfl)
  · intro h
    cases h with
    | removed hxs hys hv =>
        obtain ⟨a, rfl, rfl⟩ := Option.map_eq_some_iff.mp hxs
        refine ⟨.onlyA a, Pairing.of?_eq_onlyA_iff.mpr ⟨rfl, Option.map_eq_none_iff.mp hys⟩, ?_⟩
        rw [Pairing.element?, hx a rfl, (hshows a _).mp hv]
    | added hxs hys hw =>
        obtain ⟨b, rfl, rfl⟩ := Option.map_eq_some_iff.mp hys
        refine ⟨.onlyB b, Pairing.of?_eq_onlyB_iff.mpr ⟨Option.map_eq_none_iff.mp hxs, rfl⟩, ?_⟩
        rw [Pairing.element?, hy b rfl, (hshows b _).mp hw]
    | changed hxs hys hne hv hw =>
        obtain ⟨a, rfl, rfl⟩ := Option.map_eq_some_iff.mp hxs
        obtain ⟨b, rfl, rfl⟩ := Option.map_eq_some_iff.mp hys
        have hne' : some (value a) ≠ some (value b) :=
          fun h => hne ((hvalue a b).mp (Option.some.inj h))
        refine ⟨.both a b, rfl, ?_⟩
        rw [Pairing.element?, if_neg hne', hx a rfl, (hshows a _).mp hv, (hshows b _).mp hw]

variable [LinearOrder κ]

/-- The elements of a list of pairings are what its keys are to be reported as. -/
theorem mem_elements_iff (hshows : ∀ a v, shows (f a) v ↔ v = value a)
    (hvalue : ∀ a b, value a = value b ↔ f a = f b) {xs ys : List α} (hxs : (keys xs).Nodup)
    (hys : (keys ys).Nodup) :
    e ∈ (pair xs ys).filterMap
        (Pairing.element? className (fun a => place (key a)) fun a => some (value a)) ↔
      ∃ k, Differs className (place k) shows ((find? k xs).map f) ((find? k ys).map f) e := by
  rw [List.mem_filterMap]
  constructor
  · rintro ⟨p, hp, he⟩
    obtain ⟨k, hk⟩ := (mem_pair_iff hxs hys).mp hp
    exact ⟨k, (element?_eq_some_iff hshows hvalue (fun _ => key_of_find?)
      (fun _ => key_of_find?)).mp ⟨p, hk, he⟩⟩
  · rintro ⟨k, hk⟩
    obtain ⟨p, hp, he⟩ := (element?_eq_some_iff hshows hvalue (fun _ => key_of_find?)
      (fun _ => key_of_find?)).mpr hk
    exact ⟨p, (mem_pair_iff hxs hys).mpr ⟨k, hp⟩, he⟩

end Elements

/-! ## The walks -/

section Walks

variable {a b : Project} {e : Element}

theorem mem_classes_between (ha : a.Distinct) (hb : b.Distinct) :
    e ∈ (Report.between a b).classes ↔
      ∃ name p, Pairing.of? (a.class? name) (b.class? name) = some p ∧
        classElement? p = some e := by
  simp only [Report.between, List.mem_filterMap]
  constructor
  · rintro ⟨p, hp, he⟩
    obtain ⟨name, hname⟩ := (mem_pair_iff ha.classes hb.classes).mp hp
    exact ⟨name, p, hname, he⟩
  · rintro ⟨name, p, hname, he⟩
    exact ⟨p, (mem_pair_iff ha.classes hb.classes).mpr ⟨name, hname⟩, he⟩

/-- What is reported of the lines of two classes. -/
theorem mem_lineElements_iff {ca cb : Class} (ha : (keys ca.lines).Nodup)
    (hb : (keys cb.lines).Nodup) :
    e ∈ lineElements ca cb ↔
      ∃ n, Differs ca.name (.line n) (fun s v => v = .status s) ((ca.line? n).map Line.status)
        ((cb.line? n).map Line.status) e :=
  mem_elements_iff (fun _ _ => Iff.rfl) (fun _ _ => Line.value_eq_iff) ha hb

/-- What is reported of the jumps of two lines. -/
theorem mem_jumpElements_iff {name : String} {la lb : Line} (ha : (keys la.jumps).Nodup)
    (hb : (keys lb.jumps).Nodup) :
    e ∈ jumpElements name la lb ↔
      ∃ i, Differs name (.branch la.number i) (fun o v => v = .outcome o) (la.view.outcome i)
        (lb.view.outcome i) e :=
  mem_elements_iff (fun _ _ => Iff.rfl) (fun _ _ => Jump.value_eq_iff) ha hb

/-- What is reported of the switches of two lines. -/
theorem mem_switchElements_iff {name : String} {la lb : Line} (ha : (keys la.switches).Nodup)
    (hb : (keys lb.switches).Nodup) :
    e ∈ switchElements name la lb ↔
      ∃ i, Differs name (.branch la.number i) ListsValue (la.view.covered i)
        (lb.view.covered i) e :=
  mem_elements_iff (fun _ _ => Switch.listsValue_iff) (fun _ _ => Switch.value_eq_iff) ha hb

/-- The walk over the lines of shared classes. -/
theorem mem_lines_between (ha : a.Distinct) (hb : b.Distinct) :
    e ∈ (Report.between a b).lines ↔
      ∃ c n, (a.view c).isSome ∧ (b.view c).isSome ∧
        Differs c (.line n) (fun s v => v = .status s) ((a.view.line? c n).map LineView.status)
          ((b.view.line? c n).map LineView.status) e := by
  simp only [Report.between, List.mem_flatMap, Prod.exists, Project.isSome_view,
    Project.view_line?, Option.map_map]
  constructor
  · rintro ⟨ca, cb, hshared, he⟩
    obtain ⟨c, hca, hcb⟩ := (mem_shared_iff ha.classes hb.classes).mp hshared
    obtain ⟨n, hdiff⟩ :=
      (mem_lineElements_iff (ha.lines_of_class? hca) (hb.lines_of_class? hcb)).mp he
    have hname : ca.name = c := key_of_find? hca
    refine ⟨c, n, Option.isSome_of_eq_some hca, Option.isSome_of_eq_some hcb, ?_⟩
    rw [Project.line?_of_class? hca, Project.line?_of_class? hcb]
    exact hname ▸ hdiff
  · rintro ⟨c, n, hisa, hisb, hdiff⟩
    obtain ⟨ca, hca⟩ := Option.isSome_iff_exists.mp hisa
    obtain ⟨cb, hcb⟩ := Option.isSome_iff_exists.mp hisb
    have hname : ca.name = c := key_of_find? hca
    refine ⟨ca, cb, (mem_shared_iff ha.classes hb.classes).mpr ⟨c, hca, hcb⟩, ?_⟩
    rw [Project.line?_of_class? hca, Project.line?_of_class? hcb, ← hname] at hdiff
    exact (mem_lineElements_iff (ha.lines_of_class? hca) (hb.lines_of_class? hcb)).mpr ⟨n, hdiff⟩

/-- The walk over shared lines, whatever is reported of two lines. -/
theorem mem_sharedLines_iff (ha : a.Distinct) (hb : b.Distinct)
    {f : String → Line → Line → List Element} :
    e ∈ ((shared a.classes b.classes).flatMap fun (ca, cb) =>
        (shared ca.lines cb.lines).flatMap fun (la, lb) => f ca.name la lb) ↔
      ∃ c n la lb, a.line? c n = some la ∧ b.line? c n = some lb ∧ e ∈ f c la lb := by
  simp only [List.mem_flatMap, Prod.exists]
  constructor
  · rintro ⟨ca, cb, hclasses, la, lb, hlines, he⟩
    obtain ⟨c, hca, hcb⟩ := (mem_shared_iff ha.classes hb.classes).mp hclasses
    obtain ⟨n, hla, hlb⟩ :=
      (mem_shared_iff (ha.lines_of_class? hca) (hb.lines_of_class? hcb)).mp hlines
    have hname : ca.name = c := key_of_find? hca
    exact ⟨c, n, la, lb, Project.line?_eq_some_iff.mpr ⟨ca, hca, hla⟩,
      Project.line?_eq_some_iff.mpr ⟨cb, hcb, hlb⟩, hname ▸ he⟩
  · rintro ⟨c, n, la, lb, hla, hlb, he⟩
    obtain ⟨ca, hca, hla⟩ := Project.line?_eq_some_iff.mp hla
    obtain ⟨cb, hcb, hlb⟩ := Project.line?_eq_some_iff.mp hlb
    have hname : ca.name = c := key_of_find? hca
    refine ⟨ca, cb, (mem_shared_iff ha.classes hb.classes).mpr ⟨c, hca, hcb⟩, la, lb, ?_,
      hname.symm ▸ he⟩
    exact (mem_shared_iff (ha.lines_of_class? hca) (hb.lines_of_class? hcb)).mpr ⟨n, hla, hlb⟩

/-- The walk over the branches of shared lines, where `read` is what is compared of a branch. -/
theorem mem_branches_between {β : Type} {shows : β → Value → Prop}
    {f : String → Line → Line → List Element} {read : LineView → Int → Option β}
    (ha : a.Distinct) (hb : b.Distinct)
    (hf : ∀ c n la lb, a.line? c n = some la → b.line? c n = some lb →
      (e ∈ f c la lb ↔
        ∃ i, Differs c (.branch la.number i) shows (read la.view i) (read lb.view i) e)) :
    e ∈ ((shared a.classes b.classes).flatMap fun (ca, cb) =>
        (shared ca.lines cb.lines).flatMap fun (la, lb) => f ca.name la lb) ↔
      ∃ c n va vb, a.view.line? c n = some va ∧ b.view.line? c n = some vb ∧
        ∃ i, Differs c (.branch n i) shows (read va i) (read vb i) e := by
  rw [mem_sharedLines_iff ha hb]
  constructor
  · rintro ⟨c, n, la, lb, hla, hlb, he⟩
    refine ⟨c, n, la.view, lb.view, Project.view_line?_eq_some_iff.mpr ⟨la, hla, rfl⟩,
      Project.view_line?_eq_some_iff.mpr ⟨lb, hlb, rfl⟩, ?_⟩
    rw [← Project.number_of_line? hla]
    exact (hf c n la lb hla hlb).mp he
  · rintro ⟨c, n, va, vb, hva, hvb, hdiff⟩
    obtain ⟨la, hla, rfl⟩ := Project.view_line?_eq_some_iff.mp hva
    obtain ⟨lb, hlb, rfl⟩ := Project.view_line?_eq_some_iff.mp hvb
    refine ⟨c, n, la, lb, hla, hlb, ?_⟩
    rw [← Project.number_of_line? hla] at hdiff
    exact (hf c n la lb hla hlb).mpr hdiff

/-- The walk over the jumps of shared lines. -/
theorem mem_jumps_between (ha : a.Distinct) (hb : b.Distinct) :
    e ∈ (Report.between a b).jumps ↔
      ∃ c n va vb, a.view.line? c n = some va ∧ b.view.line? c n = some vb ∧
        ∃ i, Differs c (.branch n i) (fun o v => v = .outcome o) (va.outcome i)
          (vb.outcome i) e := by
  refine mem_branches_between ha hb ?_
  intro c n la lb hla hlb
  exact mem_jumpElements_iff (ha.jumps_of_line? hla) (hb.jumps_of_line? hlb)

/-- The walk over the switches of shared lines. -/
theorem mem_switches_between (ha : a.Distinct) (hb : b.Distinct) :
    e ∈ (Report.between a b).switches ↔
      ∃ c n va vb, a.view.line? c n = some va ∧ b.view.line? c n = some vb ∧
        ∃ i, Differs c (.branch n i) ListsValue (va.covered i) (vb.covered i) e := by
  refine mem_branches_between ha hb ?_
  intro c n la lb hla hlb
  exact mem_switchElements_iff (ha.switches_of_line? hla) (hb.switches_of_line? hlb)

end Walks

/-! ## The levels -/

section Levels

variable {a b : Project} {e : Element}

/-- **Soundness**: what is reported is to be reported. -/
theorem discrepancy_of_mem (ha : a.Distinct) (hb : b.Distinct) {level : Level}
    (h : e ∈ (Report.between a b).level level) : Discrepancy a.view b.view level e := by
  cases level with
  | classes =>
      obtain ⟨c, p, hp, he⟩ := (mem_classes_between ha hb).mp h
      cases p with
      | onlyA ca =>
          obtain ⟨hca, hcb⟩ := Pairing.of?_eq_onlyA_iff.mp hp
          have hname : ca.name = c := key_of_find? hca
          have hisa : (a.view c).isSome := Project.isSome_view a c ▸ Option.isSome_of_eq_some hca
          rw [classElement?, hname, Option.some.injEq] at he
          exact he ▸ .classRemoved hisa (Project.view_eq_none_iff.mpr hcb)
      | onlyB cb =>
          obtain ⟨hca, hcb⟩ := Pairing.of?_eq_onlyB_iff.mp hp
          have hname : cb.name = c := key_of_find? hcb
          have hisb : (b.view c).isSome := Project.isSome_view b c ▸ Option.isSome_of_eq_some hcb
          rw [classElement?, hname, Option.some.injEq] at he
          exact he ▸ .classAdded (Project.view_eq_none_iff.mpr hca) hisb
      | both ca cb => contradiction
  | lines =>
      obtain ⟨c, n, hca, hcb, hdiff⟩ := (mem_lines_between ha hb).mp h
      cases hdiff with
      | removed hx hy hv =>
          obtain ⟨la, hla, rfl⟩ := Option.map_eq_some_iff.mp hx
          exact hv ▸ .lineRemoved hcb hla (Option.map_eq_none_iff.mp hy)
      | added hx hy hw =>
          obtain ⟨lb, hlb, rfl⟩ := Option.map_eq_some_iff.mp hy
          exact hw ▸ .lineAdded hca (Option.map_eq_none_iff.mp hx) hlb
      | changed hx hy hne hv hw =>
          obtain ⟨la, hla, rfl⟩ := Option.map_eq_some_iff.mp hx
          obtain ⟨lb, hlb, rfl⟩ := Option.map_eq_some_iff.mp hy
          exact hv ▸ hw ▸ .lineChanged hla hlb hne
  | jumps =>
      obtain ⟨c, n, va, vb, hva, hvb, i, hdiff⟩ := (mem_jumps_between ha hb).mp h
      cases hdiff with
      | removed hx hy hv => exact hv ▸ .jumpRemoved hva hvb hx hy
      | added hx hy hw => exact hw ▸ .jumpAdded hva hvb hx hy
      | changed hx hy hne hv hw => exact hv ▸ hw ▸ .jumpChanged hva hvb hx hy hne
  | switches =>
      obtain ⟨c, n, va, vb, hva, hvb, i, hdiff⟩ := (mem_switches_between ha hb).mp h
      cases hdiff with
      | removed hx hy hv =>
          obtain ⟨xs, hxs, rfl⟩ := hv
          exact .switchRemoved hva hvb hx hy hxs
      | added hx hy hw =>
          obtain ⟨ys, hys, rfl⟩ := hw
          exact .switchAdded hva hvb hx hy hys
      | changed hx hy hne hv hw =>
          obtain ⟨xs, hxs, rfl⟩ := hv
          obtain ⟨ys, hys, rfl⟩ := hw
          exact .switchChanged hva hvb hx hy hne hxs hys

/-- **Completeness**: what is to be reported is reported. -/
theorem mem_of_discrepancy (ha : a.Distinct) (hb : b.Distinct) {level : Level}
    (h : Discrepancy a.view b.view level e) : e ∈ (Report.between a b).level level := by
  cases h with
  | @classRemoved c hva hvb =>
      rw [Project.isSome_view] at hva
      obtain ⟨ca, hca⟩ := Option.isSome_iff_exists.mp hva
      have hp := Pairing.of?_eq_onlyA_iff.mpr ⟨hca, Project.view_eq_none_iff.mp hvb⟩
      refine (mem_classes_between ha hb).mpr ⟨c, .onlyA ca, hp, ?_⟩
      have hname : ca.name = c := key_of_find? hca
      rw [classElement?, hname]
  | @classAdded c hva hvb =>
      rw [Project.isSome_view] at hvb
      obtain ⟨cb, hcb⟩ := Option.isSome_iff_exists.mp hvb
      have hp := Pairing.of?_eq_onlyB_iff.mpr ⟨Project.view_eq_none_iff.mp hva, hcb⟩
      refine (mem_classes_between ha hb).mpr ⟨c, .onlyB cb, hp, ?_⟩
      have hname : cb.name = c := key_of_find? hcb
      rw [classElement?, hname]
  | @lineRemoved c n la hc hla hlb =>
      refine (mem_lines_between ha hb).mpr ⟨c, n, ProjectView.isSome_of_line? hla, hc, ?_⟩
      exact .removed (congrArg (Option.map _) hla) (congrArg (Option.map _) hlb) rfl
  | @lineAdded c n lb hc hla hlb =>
      refine (mem_lines_between ha hb).mpr ⟨c, n, hc, ProjectView.isSome_of_line? hlb, ?_⟩
      exact .added (congrArg (Option.map _) hla) (congrArg (Option.map _) hlb) rfl
  | @lineChanged c n la lb hla hlb hne =>
      have hsa := ProjectView.isSome_of_line? hla
      have hsb := ProjectView.isSome_of_line? hlb
      refine (mem_lines_between ha hb).mpr ⟨c, n, hsa, hsb, ?_⟩
      exact .changed (congrArg (Option.map _) hla) (congrArg (Option.map _) hlb) hne rfl rfl
  | @jumpRemoved c n i va vb _ hva hvb hx hy =>
      exact (mem_jumps_between ha hb).mpr ⟨c, n, va, vb, hva, hvb, i, .removed hx hy rfl⟩
  | @jumpAdded c n i va vb _ hva hvb hx hy =>
      exact (mem_jumps_between ha hb).mpr ⟨c, n, va, vb, hva, hvb, i, .added hx hy rfl⟩
  | @jumpChanged c n i va vb _ _ hva hvb hx hy hne =>
      exact (mem_jumps_between ha hb).mpr ⟨c, n, va, vb, hva, hvb, i, .changed hx hy hne rfl rfl⟩
  | @switchRemoved c n i va vb _ xs hva hvb hx hy hxs =>
      exact (mem_switches_between ha hb).mpr
        ⟨c, n, va, vb, hva, hvb, i, .removed hx hy ⟨xs, hxs, rfl⟩⟩
  | @switchAdded c n i va vb _ ys hva hvb hx hy hys =>
      exact (mem_switches_between ha hb).mpr
        ⟨c, n, va, vb, hva, hvb, i, .added hx hy ⟨ys, hys, rfl⟩⟩
  | @switchChanged c n i va vb _ _ xs ys hva hvb hx hy hne hxs hys =>
      exact (mem_switches_between ha hb).mpr
        ⟨c, n, va, vb, hva, hvb, i, .changed hx hy hne ⟨xs, hxs, rfl⟩ ⟨ys, hys, rfl⟩⟩

/-- A report has exactly the elements that are to be reported, of projects with distinct keys. -/
theorem mem_level_iff_discrepancy (ha : a.Distinct) (hb : b.Distinct) {level : Level} :
    e ∈ (Report.between a b).level level ↔ Discrepancy a.view b.view level e :=
  ⟨discrepancy_of_mem ha hb, mem_of_discrepancy ha hb⟩

end Levels

/-! ## What a report says of a class or line -/

namespace Report

/-- The report has a class under a kind. -/
def HasClass (r : Report) (kind : Kind) (className : String) : Prop :=
  ∃ e ∈ r.classes, e.kind = kind ∧ e.className = className

/-- The report has a line of a class under a kind. -/
def HasLine (r : Report) (kind : Kind) (className : String) (number : Int) : Prop :=
  ∃ e ∈ r.lines, e.kind = kind ∧ e.className = className ∧ e.place.line? = some number

instance (r : Report) (kind : Kind) (className : String) : Decidable (r.HasClass kind className) :=
  inferInstanceAs (Decidable (∃ e ∈ r.classes, e.kind = kind ∧ e.className = className))

variable {a b : Project} {c : String}

/-- A class is reported as added exactly if only the second side has it. -/
theorem hasClass_added_iff (ha : a.Distinct) (hb : b.Distinct) :
    (between a b).HasClass .added c ↔ a.view c = none ∧ (b.view c).isSome := by
  constructor
  · rintro ⟨e, he, hkind, rfl⟩
    have hmem : e ∈ (between a b).level .classes := he
    cases discrepancy_of_mem ha hb hmem with
    | classRemoved _ _ => contradiction
    | classAdded hna hsb => exact ⟨hna, hsb⟩
  · rintro ⟨hna, hsb⟩
    have hmem : _ ∈ (between a b).level .classes := mem_of_discrepancy ha hb (.classAdded hna hsb)
    exact ⟨_, hmem, rfl, rfl⟩

/-- A class is reported as removed exactly if only the first side has it. -/
theorem hasClass_removed_iff (ha : a.Distinct) (hb : b.Distinct) :
    (between a b).HasClass .removed c ↔ (a.view c).isSome ∧ b.view c = none := by
  constructor
  · rintro ⟨e, he, hkind, rfl⟩
    have hmem : e ∈ (between a b).level .classes := he
    cases discrepancy_of_mem ha hb hmem with
    | classRemoved hsa hnb => exact ⟨hsa, hnb⟩
    | classAdded _ _ => contradiction
  · rintro ⟨hsa, hnb⟩
    have hmem : _ ∈ (between a b).level .classes :=
      mem_of_discrepancy ha hb (.classRemoved hsa hnb)
    exact ⟨_, hmem, rfl, rfl⟩

/-- A line of a shared class that only the second side has is reported as added. -/
theorem hasLine_added (ha : a.Distinct) (hb : b.Distinct) {n : Int} {v : LineView}
    (hsa : (a.view c).isSome) (hna : a.view.line? c n = none) (hnb : b.view.line? c n = some v) :
    (between a b).HasLine .added c n := by
  have hmem : _ ∈ (between a b).level .lines :=
    mem_of_discrepancy ha hb (.lineAdded hsa hna hnb)
  exact ⟨_, hmem, rfl, rfl, rfl⟩

end Report

/-- **Soundness and completeness**: the report of two projects that operations can give, their
classes and lines held in any order, has exactly the elements that are to be reported, at every
level. -/
theorem Report.mem_level_between {a b : Project} (ha : a.Stored) (hb : b.Stored) (level : Level)
    (e : Element) :
    e ∈ (Report.between a b).level level ↔ Discrepancy a.view b.view level e :=
  mem_level_iff_discrepancy ha.distinct hb.distinct

/-- Between the samples something is to be reported at every level. -/
theorem Sample.discrepancies :
    Discrepancy earlier.view later.view .classes
        { className := "org.example.Bar", kind := .removed } ∧
      Discrepancy earlier.view later.view .lines
        { className := "org.example.Foo", kind := .added, place := .line 9,
          after := some (.status .full) } ∧
      Discrepancy earlier.view later.view .jumps
        { className := "org.example.Foo", kind := .changed, place := .branch 3 0,
          before := some (.outcome (true, false)), after := some (.outcome (true, true)) } ∧
      Discrepancy earlier.view later.view .switches
        { className := "org.example.Foo", kind := .changed, place := .branch 3 1,
          before := some (.cases ["7"]), after := some (.cases ["2", "7", "default"]) } := by
  have hmem := Report.mem_level_between reachable_earlier.stored reachable_later.stored
  refine ⟨(hmem _ _).mp ?_, (hmem _ _).mp ?_, (hmem _ _).mp ?_, (hmem _ _).mp ?_⟩
  all_goals decide +kernel

end CoverageDiff
