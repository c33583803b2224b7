import CoverageDiff.Cobertura.Writer
import CoverageDiff.Proofs.Description
import CoverageDiff.Proofs.Numeral
import CoverageDiff.Proofs.Reading

/-!
# CoverageDiff.Proofs.RoundTrip

A project is read back from every document that shows it.

`ShowsProject root p` says what such a document is: one class element for each
class and one row for each line, in any order, with all counts written out;
what stands around them does not matter.  `ofProject p` is one
(`showsProject_ofProject`).

A project can be written if it is `Writable`: counts are not negative, numbers
have no more digits than are read, and class names are not blank and have no
blanks around them.

The conditions of a row do to a line what the edits of its description do
(`DoesEdit`), and the edits are known to make the line (`Line.apply_plan`).
-/

namespace CoverageDiff

open CoverageDiff.Shelf

/-! ## What can be written -/

/-- A number that is read as a count. -/
structure IsCount (i : Int) : Prop where
  nonneg : 0 ≤ i
  short : Text.Short i

/-- The index and the counts of the jump are read as such. -/
structure Jump.Writable (j : Jump) : Prop where
  index : IsCount j.index
  trueHits : IsCount j.trueHits
  falseHits : IsCount j.falseHits

/-- The numbers of the switch are read as such; keys and counts of cases may be negative. -/
structure Switch.Writable (s : Switch) : Prop where
  index : IsCount s.index
  keys : ∀ k ∈ s.keys, Text.Short k
  hits : ∀ n ∈ s.hits, Text.Short n
  defaultHits : IsCount s.defaultHits

/-- The numbers of the line are read as such. -/
structure Line.Writable (l : Line) : Prop where
  number : Text.Short l.number
  hits : IsCount l.hits
  jumps : ∀ j ∈ l.jumps, j.Writable
  switches : ∀ s ∈ l.switches, s.Writable

/-- The name of the class and the numbers of its lines are read as such. -/
structure Class.Writable (c : Class) : Prop where
  name_ne_empty : c.name ≠ ""
  trimmed_name : Text.trimmed c.name = c.name
  lines : ∀ l ∈ c.lines, l.Writable

/-- The classes of the project can be written. -/
def Project.Writable (p : Project) : Prop :=
  ∀ c ∈ p.classes, c.Writable

instance (i : Int) : Decidable (IsCount i) :=
  decidable_of_iff (0 ≤ i ∧ Text.Short i) ⟨fun ⟨h, h'⟩ => ⟨h, h'⟩, fun h => ⟨h.1, h.2⟩⟩

instance (j : Jump) : Decidable j.Writable :=
  decidable_of_iff (IsCount j.index ∧ IsCount j.trueHits ∧ IsCount j.falseHits)
    ⟨fun ⟨hi, ht, hf⟩ => ⟨hi, ht, hf⟩, fun h => ⟨h.index, h.trueHits, h.falseHits⟩⟩

instance (s : Switch) : Decidable s.Writable :=
  decidable_of_iff
    (IsCount s.index ∧ (∀ k ∈ s.keys, Text.Short k) ∧ (∀ n ∈ s.hits, Text.Short n) ∧
      IsCount s.defaultHits)
    ⟨fun ⟨hi, hk, hn, hd⟩ => ⟨hi, hk, hn, hd⟩, fun h => ⟨h.index, h.keys, h.hits, h.defaultHits⟩⟩

instance (l : Line) : Decidable l.Writable :=
  decidable_of_iff
    (Text.Short l.number ∧ IsCount l.hits ∧ (∀ j ∈ l.jumps, j.Writable) ∧
      ∀ s ∈ l.switches, s.Writable)
    ⟨fun ⟨hn, hh, hj, hs⟩ => ⟨hn, hh, hj, hs⟩, fun h => ⟨h.number, h.hits, h.jumps, h.switches⟩⟩

instance (c : Class) : Decidable c.Writable :=
  decidable_of_iff (c.name ≠ "" ∧ Text.trimmed c.name = c.name ∧ ∀ l ∈ c.lines, l.Writable)
    ⟨fun ⟨hn, ht, hl⟩ => ⟨hn, ht, hl⟩, fun h => ⟨h.name_ne_empty, h.trimmed_name, h.lines⟩⟩

instance (p : Project) : Decidable p.Writable :=
  inferInstanceAs (Decidable (∀ c ∈ p.classes, c.Writable))

namespace Cobertura

open Markup

/-! ## Attributes -/

/-- A written number is no blank text. -/
theorem isBlankString_toString (i : Int) : Text.isBlankString (toString i) = false := by
  have hne := Text.toList_toString_ne_nil i
  have hblank : ∀ c ∈ (toString i).toList, Text.isBlank c = false :=
    fun _ => Text.isBlank_of_mem_toString
  rw [Text.isBlankString, Text.isBlankText]
  cases h : (toString i).toList with
  | nil => exact absurd h hne
  | cons c cs =>
      rw [List.all_cons, hblank c (h ▸ List.mem_cons_self), Bool.false_and]

variable {n : Node} {name : String} {i : Int}

theorem givenText?_of_attribute (h : n.attribute? name = some (toString i)) :
    givenText? n name = some (toString i) := by
  rw [givenText?, h, Option.filter_some, isBlankString_toString]
  rfl

theorem countOf?_toString {tag : String} (hi : IsCount i) :
    countOf? tag name (toString i) = .ok i := by
  rw [countOf?, Text.int?_toString hi.short]
  exact if_neg (Int.not_lt.mpr hi.nonneg)

theorem count?_of_attribute (h : n.attribute? name = some (toString i)) (hi : IsCount i) :
    count? n name = .ok i := by
  rw [count?, givenText?_of_attribute h]
  exact countOf?_toString hi

theorem countOrZero?_of_attribute (h : n.attribute? name = some (toString i)) (hi : IsCount i) :
    countOrZero? n name = .ok i := by
  rw [countOrZero?, givenText?_of_attribute h]
  exact countOf?_toString hi

theorem commasAsBlanks_numbersText (ns : List Int) :
    commasAsBlanks (numbersText ns) = numbersText ns := by
  have hmap : (numbersText ns).toList.map (fun c => if c = ',' then ' ' else c) =
      (numbersText ns).toList := by
    have hid : ∀ c ∈ (numbersText ns).toList, (if c = ',' then ' ' else c) = id c :=
      fun _ hc => if_neg (Text.ne_comma_of_mem_intercalate hc)
    rw [List.map_congr_left hid, List.map_id]
  rw [commasAsBlanks, hmap, String.ofList_toList]

theorem numbers?_of_attribute {ns : List Int} (h : n.attribute? name = some (numbersText ns))
    (hns : ∀ i ∈ ns, Text.Short i) : numbers? n name = .ok ns := by
  have hread : (Text.wordsOf (commasAsBlanks (numbersText ns))).mapM Text.int? = some ns := by
    rw [commasAsBlanks_numbersText]
    exact Text.mapM_int?_wordsOf hns
  rw [numbers?, h, Option.getD_some]
  simp only [hread]

/-! ## Conditions -/

/-- A condition does to every line what an edit does. -/
def DoesEdit (n : Node) (e : Edit) : Prop :=
  ∀ l l', l.edit e = .ok l' → addCondition? l n = .ok l'

theorem conditionKind_ofJump (j : Jump) : conditionKind (ofJump j) = "jump" := by
  have htype : (ofJump j).attribute? "type" = some "jump" := rfl
  rw [conditionKind, htype]
  decide +kernel

theorem conditionKind_ofSwitch (s : Switch) : conditionKind (ofSwitch s) = "switch" := by
  have htype : (ofSwitch s).attribute? "type" = some "switch" := rfl
  rw [conditionKind, htype]
  decide +kernel

theorem jump?_ofJump {j : Jump} (hj : j.Writable) (line : Int) : jump? line (ofJump j) = .ok j := by
  have hindex : count? (ofJump j) "number" = .ok j.index := count?_of_attribute rfl hj.index
  have htrue : countOrZero? (ofJump j) "true-hits" = .ok j.trueHits :=
    countOrZero?_of_attribute rfl hj.trueHits
  have hfalse : countOrZero? (ofJump j) "false-hits" = .ok j.falseHits :=
    countOrZero?_of_attribute rfl hj.falseHits
  have hcounts : hasCounts (ofJump j) = true := rfl
  simp only [jump?, hindex, hcounts, htrue, hfalse]
  rfl

theorem switch?_ofSwitch {s : Switch} (hs : s.Writable) (heven : s.Even) (line : Int) :
    switch? line (ofSwitch s) = .ok s := by
  have hindex : count? (ofSwitch s) "number" = .ok s.index := count?_of_attribute rfl hs.index
  have hkeys : numbers? (ofSwitch s) "keys" = .ok s.keys := numbers?_of_attribute rfl hs.keys
  have hhits : numbers? (ofSwitch s) "hits" = .ok s.hits := numbers?_of_attribute rfl hs.hits
  have hdefault : countOrZero? (ofSwitch s) "default-hits" = .ok s.defaultHits :=
    countOrZero?_of_attribute rfl hs.defaultHits
  have hlen : s.keys.length = s.hits.length := heven
  have hread : (if s.keys.length = s.hits.length then
      (Except.ok s : Except ReadError Switch)
      else throw (.unevenSwitch s.index line s.keys.length s.hits.length)) = .ok s := if_pos hlen
  simp only [switch?, hindex, hkeys, hhits, hdefault]
  exact hread

theorem doesEdit_ofJump {j : Jump} (hj : j.Writable) : DoesEdit (ofJump j) (.jump j) := by
  intro l l' h
  have hl : l.setJump j = l' := Except.ok.inj h
  simp only [addCondition?, conditionKind_ofJump, if_true, jump?_ofJump hj, hl, Except.map]

theorem doesEdit_ofSwitch {s : Switch} (hs : s.Writable) (heven : s.Even) :
    DoesEdit (ofSwitch s) s.edit := by
  intro l l' h
  have hl : l.setSwitch s = l' := by
    rw [Line.edit_switch l heven] at h
    exact Except.ok.inj h
  have hkind : ¬"switch" = "jump" := by decide
  simp only [addCondition?, conditionKind_ofSwitch, hkind, if_false, if_true,
    switch?_ofSwitch hs heven, hl, Except.map]

/-- Conditions that do what edits do take a line where the edits take it. -/
theorem foldlM_addCondition? {ns : List Node} {es : List Edit} (h : List.Forall₂ DoesEdit ns es)
    {l l' : Line} (hl : l.apply es = (l', none)) : ns.foldlM addCondition? l = .ok l' := by
  induction h generalizing l with
  | nil =>
      cases hl
      rfl
  | @cons n e ns es hn _ ih =>
      rw [Line.apply] at hl
      split at hl
      · next m hm =>
          rw [List.foldlM_cons, hn l m hm]
          exact ih hl
      · cases hl

/-! ## Rows -/

/-- The row has the number, the count, the method and the branches of the line. -/
structure ShowsLine (n : Node) (l : Line) : Prop where
  number : n.attribute? "number" = some (toString l.number)
  hits : n.attribute? "hits" = some (toString l.hits)
  method : n.attribute? "method" = l.method
  conditions : rowConditions n = l.jumps.map ofJump ++ l.switches.map ofSwitch

namespace ShowsLine

variable {l : Line}

theorem rowNumber_eq_ok (h : ShowsLine n l) (hl : l.WellFormed) (hw : l.Writable) :
    rowNumber n = .ok l.number := by
  have hsound : hitsAreSound n = true := by
    rw [hitsAreSound, h.hits]
    simp only [Text.int?_toString hw.hits.short, Option.isSome_some, Bool.or_true]
  rw [rowNumber, h.number, Option.bind_some, Text.int?_toString hw.number, hsound]
  exact if_neg (Int.not_lt.mpr hl.number_pos)

/-- The conditions of the row make the line from one without branches. -/
theorem foldlM_conditions (h : ShowsLine n l) (hl : l.WellFormed) (hw : l.Writable) :
    (rowConditions n).foldlM addCondition?
      { number := l.number, hits := l.hits, method := l.method } = .ok l := by
  have hjumps : List.Forall₂ DoesEdit (l.jumps.map ofJump) (l.jumps.map Edit.jump) := by
    rw [List.forall₂_map_left_iff, List.forall₂_map_right_iff, List.forall₂_same]
    exact fun j hj => doesEdit_ofJump (hw.jumps j hj)
  have hswitches : List.Forall₂ DoesEdit (l.switches.map ofSwitch)
      (l.switches.map Switch.edit) := by
    rw [List.forall₂_map_left_iff, List.forall₂_map_right_iff, List.forall₂_same]
    exact fun s hs => doesEdit_ofSwitch (hw.switches s hs) (hl.even s hs)
  -- the first edit of the plan sets the count, which the row has given already
  have hedits : ({ number := l.number, hits := l.hits, method := l.method } : Line).apply
      (l.jumps.map Edit.jump ++ l.switches.map Switch.edit) = (l, none) :=
    Line.apply_plan hl
  rw [h.conditions]
  exact foldlM_addCondition? (List.rel_append hjumps hswitches) hedits

theorem line?_eq_ok (h : ShowsLine n l) (hl : l.WellFormed) (hw : l.Writable) :
    line? l.number n = .ok l := by
  have hhits : countOrZero? n "hits" = .ok l.hits := countOrZero?_of_attribute h.hits hw.hits
  have hconditions := h.foldlM_conditions hl hw
  rw [line?, hhits, h.method]
  exact hconditions

theorem rowSound (h : ShowsLine n l) (hl : l.WellFormed) (hw : l.Writable) : RowSound n := by
  intro number e hnumber
  cases (h.rowNumber_eq_ok hl hw).symm.trans hnumber
  rw [h.line?_eq_ok hl hw]
  exact fun he => by cases he

theorem rowLine?_eq_some (h : ShowsLine n l) (hl : l.WellFormed) (hw : l.Writable) :
    rowLine? n = some l := by
  rw [rowLine?, h.rowNumber_eq_ok hl hw]
  simp only [h.line?_eq_ok hl hw, Except.toOption]

end ShowsLine

/-- Rows that show lines are accepted, and their lines are these. -/
theorem rowLines_of_shows {rows : List Node} {ls : List Line}
    (h : List.Forall₂ ShowsLine rows ls) (hls : ∀ l ∈ ls, l.WellFormed ∧ l.Writable) :
    (∀ row ∈ rows, RowSound row) ∧ rows.filterMap rowLine? = ls := by
  induction h with
  | nil => exact ⟨List.forall_mem_nil _, rfl⟩
  | @cons row l rows ls hrow _ ih =>
      obtain ⟨⟨hl, hw⟩, hrest⟩ := List.forall_mem_cons.mp hls
      obtain ⟨hsound, hlines⟩ := ih hrest
      refine ⟨List.forall_mem_cons.mpr ⟨hrow.rowSound hl hw, hsound⟩, ?_⟩
      rw [List.filterMap_cons_some (hrow.rowLine?_eq_some hl hw), hlines]

/-! ## Classes -/

/-- The class element has the name of the class and a row for each line. -/
structure ShowsClass (n : Node) (c : Class) : Prop where
  name : n.attribute? "name" = some c.name
  rows : ∃ ls, ls.Perm c.lines ∧ List.Forall₂ ShowsLine (classRows n) ls

/-- The class element is accepted, and its class is the one that it shows. -/
theorem ShowsClass.classOf_eq {c : Class} (h : ShowsClass n c) (hc : c.WellFormed)
    (hw : c.Writable) : ClassSound n ∧ classOf n = c := by
  obtain ⟨ls, hperm, hrows⟩ := h.rows
  have hls : ∀ l ∈ ls, l.WellFormed ∧ l.Writable := by
    intro l hl
    have hmem : l ∈ c.lines := hperm.mem_iff.mp hl
    exact ⟨hc.lines l hmem, hw.lines l hmem⟩
  obtain ⟨hsound, hlines⟩ := rowLines_of_shows hrows hls
  have hname : className? n = some c.name := by
    have hne : (c.name != "") = true := bne_iff_ne.mpr hw.name_ne_empty
    rw [className?, h.name, Option.map_some, hw.trimmed_name, Option.filter_some, if_pos hne]
  refine ⟨⟨Option.isSome_of_eq_some hname, hsound⟩, ?_⟩
  rw [Cobertura.classOf_eq hname, linesOf, hlines,
    nil_merge_perm Line.keepsKey_merge hperm hc.ascending]

/-- Class elements that show classes are accepted, and their classes are these. -/
theorem classes_of_shows {ns : List Node} {cs : List Class} (h : List.Forall₂ ShowsClass ns cs)
    (hcs : ∀ c ∈ cs, c.WellFormed ∧ c.Writable) :
    (∀ n ∈ ns, ClassSound n) ∧ ns.map classOf = cs := by
  induction h with
  | nil => exact ⟨List.forall_mem_nil _, rfl⟩
  | @cons n c ns cs hn _ ih =>
      obtain ⟨⟨hc, hw⟩, hrest⟩ := List.forall_mem_cons.mp hcs
      obtain ⟨hsound, hclass⟩ := hn.classOf_eq hc hw
      obtain ⟨hsounds, hclasses⟩ := ih hrest
      refine ⟨List.forall_mem_cons.mpr ⟨hsound, hsounds⟩, ?_⟩
      rw [List.map_cons, hclass, hclasses]

/-! ## Projects -/

/-- The document is a report with a class element for each class. -/
structure ShowsProject (root : Node) (p : Project) : Prop where
  isRoot : isRoot root = true
  classes : ∃ cs, cs.Perm p.classes ∧ List.Forall₂ ShowsClass (classElements root) cs

/-- **Reading**: a document that shows a project is read as this project. -/
theorem ShowsProject.project?_eq_ok {root : Node} {p : Project} (h : ShowsProject root p)
    (hp : p.WellFormed) (hw : p.Writable) (source : String) : project? source root = .ok p := by
  obtain ⟨cs, hperm, hclasses⟩ := h.classes
  have hcs : ∀ c ∈ cs, c.WellFormed ∧ c.Writable := by
    intro c hc
    have hmem : c ∈ p.classes := hperm.mem_iff.mp hc
    exact ⟨hp.classes c hmem, hw c hmem⟩
  obtain ⟨hsound, hmap⟩ := classes_of_shows hclasses hcs
  have hproject : projectOf (classElements root) = p := by
    rw [projectOf, hmap, nil_merge_perm Class.keepsKey_merge hperm hp.ascending]
  exact project?_eq_ok_iff.mpr ⟨h.isRoot, hsound, hproject⟩

/-! ## Written projects -/

theorem rowConditions_ofLine (l : Line) :
    rowConditions (ofLine l) = l.jumps.map ofJump ++ l.switches.map ofSwitch := by
  have htag : ∀ n ∈ l.jumps.map ofJump ++ l.switches.map ofSwitch,
      (n.tag == "condition") = true := by
    rw [List.forall_mem_append, List.forall_mem_map, List.forall_mem_map]
    exact ⟨fun _ _ => rfl, fun _ _ => rfl⟩
  have hchildren : rowConditions (ofLine l) =
      (l.jumps.map ofJump ++ l.switches.map ofSwitch).filter
        (fun n => n.tag == "condition") ++ [] := rfl
  rw [hchildren, List.append_nil, List.filter_eq_self.mpr htag]

theorem showsLine_ofLine (l : Line) : ShowsLine (ofLine l) l where
  number := rfl
  hits := rfl
  method := by
    have hlast : (ofLine l).attribute? "method" =
        (l.method.map fun m => ("method", m)).toList.lookup "method" := rfl
    rw [hlast]
    cases l.method with
    | none => rfl
    | some m => rfl
  conditions := rowConditions_ofLine l

theorem classRows_ofClass (c : Class) : classRows (ofClass c) = c.lines.map ofLine := by
  have htag : ∀ n ∈ c.lines.map ofLine, (n.tag == "line") = true := by
    rw [List.forall_mem_map]
    exact fun _ _ => rfl
  have hchildren : classRows (ofClass c) =
      (c.lines.map ofLine).filter (fun n => n.tag == "line") ++ [] := rfl
  rw [hchildren, List.append_nil, List.filter_eq_self.mpr htag]

theorem showsClass_ofClass (c : Class) : ShowsClass (ofClass c) c where
  name := rfl
  rows := by
    refine ⟨c.lines, .refl _, ?_⟩
    rw [classRows_ofClass, List.forall₂_map_left_iff, List.forall₂_same]
    exact fun l _ => showsLine_ofLine l

theorem descendantsOf_eq_flatMap (cs : List Node) :
    Node.descendantsOf cs = cs.flatMap Node.descendants := by
  induction cs with
  | nil => rfl
  | cons c cs ih => rw [Node.descendantsOf, ih, List.flatMap_cons]

/-- The elements of a name are found child by child, after the element itself. -/
theorem descendantsNamed_element (tag : String) (attributes : List (String × String))
    (cs : List Node) (name : String) :
    (Node.element tag attributes cs).descendantsNamed name =
      [Node.element tag attributes cs].filter (fun d => d.tag == name) ++
        cs.flatMap fun c => c.descendantsNamed name := by
  rw [Node.descendantsNamed, Node.descendants, descendantsOf_eq_flatMap, ← List.singleton_append,
    List.filter_append, List.filter_flatMap]
  rfl

/-- An element of another name has none inside if its children have none. -/
theorem descendantsNamed_eq_nil {tag : String} {attributes : List (String × String)}
    {cs : List Node} {name : String} (htag : (tag == name) = false)
    (hcs : ∀ c ∈ cs, c.descendantsNamed name = []) :
    (Node.element tag attributes cs).descendantsNamed name = [] := by
  have hself : [Node.element tag attributes cs].filter (fun d => d.tag == name) = [] :=
    List.filter_cons_of_neg (Bool.eq_false_iff.mp htag)
  rw [descendantsNamed_element, hself, List.nil_append, List.flatMap_eq_nil_iff]
  exact hcs

/-- There is no class element inside a row. -/
theorem classElements_ofLine (l : Line) : classElements (ofLine l) = [] := by
  refine descendantsNamed_eq_nil (by decide) ?_
  rw [List.forall_mem_singleton]
  refine descendantsNamed_eq_nil (by decide) ?_
  rw [List.forall_mem_append, List.forall_mem_map, List.forall_mem_map]
  exact ⟨fun _ _ => rfl, fun _ _ => rfl⟩

/-- The only class element of a class element is itself. -/
theorem classElements_ofClass (c : Class) : classElements (ofClass c) = [ofClass c] := by
  have hrows : (Node.element "lines" [] (c.lines.map ofLine)).descendantsNamed "class" = [] := by
    refine descendantsNamed_eq_nil (by decide) ?_
    rw [List.forall_mem_map]
    exact fun l _ => classElements_ofLine l
  rw [classElements, ofClass, descendantsNamed_element, List.flatMap_singleton, hrows,
    List.append_nil]
  rfl

theorem classElements_ofProject (p : Project) :
    classElements (ofProject p) = p.classes.map ofClass := by
  have hclasses : (p.classes.map ofClass).flatMap classElements = p.classes.map ofClass := by
    rw [List.flatMap_map]
    simp only [classElements_ofClass]
    exact List.map_eq_flatMap.symm
  rw [classElements, ofProject, descendantsNamed_element]
  exact hclasses

theorem showsProject_ofProject (p : Project) : ShowsProject (ofProject p) p where
  isRoot := by
    have htag : (ofProject p).tag = "coverage" := rfl
    rw [Cobertura.isRoot, htag]
    decide +kernel
  classes := by
    refine ⟨p.classes, .refl _, ?_⟩
    rw [classElements_ofProject, List.forall₂_map_left_iff, List.forall₂_same]
    exact fun c _ => showsClass_ofClass c

/-- **Round trip**: a reachable project that can be written is read back from the document written
for it, and from every other document that shows it. -/
theorem project_read_back {p : Project} (hp : p.Reachable) (hw : p.Writable) (source : String) :
    project? source (ofProject p) = .ok p ∧
      ∀ root, ShowsProject root p → project? source root = .ok p := by
  have hread : ∀ root, ShowsProject root p → project? source root = .ok p :=
    fun root h => h.project?_eq_ok hp.wellFormed hw source
  exact ⟨hread (ofProject p) (showsProject_ofProject p), hread⟩

end Cobertura

/-! ## Samples -/

namespace Sample

open Markup Cobertura

/-- An empty class, and one with a negative key, a switch without keys and a line of no method. -/
def unusual : Project where
  classes :=
    [{ name := "a.Empty" },
      { name := "a.b Full",
        lines :=
          [{ number := 3, hits := 12, method := some "", jumps := [⟨0, 1, 0⟩, ⟨4, 0, 10⟩],
             switches := [⟨1, [7, -2], [-1, 30], 0⟩, ⟨5, [], [], 6⟩] },
            { number := 40, hits := 0 }] }]

/-- The classes in another order, inside another element, below a root in a namespace. -/
def unusualReport : Node :=
  .element "\x7burn:x\x7dCoverage" []
    [.element "packages" [] (unusual.classes.reverse.map ofClass)]

theorem showsProject_unusualReport : ShowsProject unusualReport unusual where
  isRoot := by decide +kernel
  classes := by
    refine ⟨unusual.classes.reverse, List.reverse_perm _, ?_⟩
    have hclasses : classElements unusualReport = unusual.classes.reverse.map ofClass := rfl
    rw [hclasses, List.forall₂_map_left_iff, List.forall₂_same]
    exact fun c _ => showsClass_ofClass c

/-- The sample is read back from the document written for it and from the other one. -/
theorem unusual_read_back :
    project? "written.xml" (ofProject unusual) = .ok unusual ∧
      project? "written.xml" unusualReport = .ok unusual := by
  have hp : unusual.Reachable := by decide
  have hw : unusual.Writable := by decide +kernel
  obtain ⟨hwritten, hshown⟩ := project_read_back hp hw "written.xml"
  exact ⟨hwritten, hshown unusualReport showsProject_unusualReport⟩

end Sample

end CoverageDiff
