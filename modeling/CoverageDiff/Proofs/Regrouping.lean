import CoverageDiff.Loading
import CoverageDiff.Proofs.Reading
import CoverageDiff.Proofs.Regular
import Mathlib.Data.List.Perm.Basic

/-!
# CoverageDiff.Proofs.Regrouping

How the rows of a report are grouped does not matter, nor, but for the
methods, in which order they stand.

A document is seen as the list of its class elements, each with a name and
rows.  `CutInto` cuts class elements into several consecutive ones, and
`Shuffled` changes the order of rows and class elements.  Several documents
are seen as the list of all their class elements (`loadReports_eq_ok`), so
cutting a document into files is cutting that list.

* `projectOf_cutInto`: a cut report has the same project;
* `projectOf_shuffled`: a shuffled one has it without the methods;
* `project_regroup`: the statement on documents and on files.
-/

namespace CoverageDiff.Cobertura

open Markup Files
open CoverageDiff.Shelf

/-! ## Class elements that are accepted -/

/-- The element belongs to a class of the name of `n` and has no rows but those of `n`. -/
def PartOf (m n : Node) : Prop :=
  className? m = className? n ∧ classRows m ⊆ classRows n

/-- The class elements are accepted, and no switch among their conditions repeats a key. -/
def Accepted (ns : List Node) : Prop :=
  ∀ n ∈ ns, ClassSound n ∧ ClassDistinct n

theorem Accepted.of_partOf {ns ms : List Node} (h : Accepted ns)
    (hparts : ∀ m ∈ ms, ∃ n ∈ ns, PartOf m n) : Accepted ms := by
  intro m hm
  obtain ⟨n, hn, hname, hrows⟩ := hparts m hm
  obtain ⟨⟨hsome, hsound⟩, hdistinct⟩ := h n hn
  refine ⟨⟨?_, ?_⟩, ?_⟩
  · rw [hname]
    exact hsome
  · exact fun row hrow => hsound row (hrows hrow)
  · exact fun row hrow => hdistinct row (hrows hrow)

/-! ## Classes of rows -/

/-- Rows without a repeated key give regular lines. -/
theorem regular_of_mem_rowLines {rows : List Node} (h : ∀ row ∈ rows, RowDistinct row) :
    ∀ l ∈ rows.filterMap rowLine?, l.Regular := by
  intro l hl
  obtain ⟨row, hrow, hrl⟩ := List.mem_filterMap.mp hl
  exact ⟨rowLine?_wellFormed hrl, rowLine?_distinctKeys hrl (h row hrow)⟩

theorem ascending_linesOf (rows : List Node) : Ascending (linesOf rows) :=
  ascending_nil.merge Line.keepsKey_merge _

theorem regular_of_mem_linesOf {rows : List Node} (h : ∀ row ∈ rows, RowDistinct row) :
    ∀ l ∈ linesOf rows, l.Regular :=
  Line.joins_merge.forall_mem_merge (List.forall_mem_nil _)
    (regular_of_mem_rowLines h)

theorem regular_class {name : String} {rows : List Node} (h : ∀ row ∈ rows, RowDistinct row) :
    ({ name, lines := linesOf rows } : Class).Regular :=
  .of_lines (ascending_linesOf rows) (regular_of_mem_linesOf h)

theorem regular_classOf {n : Node} (h : ClassDistinct n) : (classOf n).Regular :=
  regular_class h

theorem regular_of_mem_classes {ns : List Node} (h : Accepted ns) :
    ∀ c ∈ ns.map classOf, c.Regular := by
  rw [List.forall_mem_map]
  exact fun n hn => regular_classOf (h n hn).2

/-- The class of more rows is merged from the classes of both. -/
theorem merge_linesOf {name : String} {rows rows' : List Node}
    (h : ∀ row ∈ rows, RowDistinct row) (h' : ∀ row ∈ rows', RowDistinct row) :
    ({ name, lines := linesOf rows } : Class).merge { name, lines := linesOf rows' } =
      { name, lines := linesOf (rows ++ rows') } := by
  have hlines : Shelf.merge Line.merge (linesOf rows) (linesOf rows') =
      Shelf.merge Line.merge (linesOf rows) (rows'.filterMap rowLine?) :=
    Line.joins_merge.merge_merge (regular_of_mem_linesOf h)
      (List.forall_mem_nil _) (regular_of_mem_rowLines h')
      (ascending_linesOf rows) ascending_nil
  simp only [Class.merge, hlines]
  rw [linesOf, linesOf, List.filterMap_append, merge_append]

/-! ## Grouping -/

/-- Consecutive class elements of one name that together have the rows of `n`. -/
structure Cut (n : Node) (parts : List Node) : Prop where
  /-- There is at least one. -/
  ne_nil : parts ≠ []
  /-- All of them have the name of `n`. -/
  names : ∀ m ∈ parts, className? m = className? n
  /-- The rows are those of `n`. -/
  rows : parts.flatMap classRows = classRows n

/-- Class elements, each replaced by what it is cut into. -/
def CutInto (xs ys : List Node) : Prop :=
  ∃ blocks, List.Forall₂ Cut xs blocks ∧ blocks.flatten = ys

theorem Cut.refl (n : Node) : Cut n [n] where
  ne_nil := List.cons_ne_nil n []
  names := fun m hm => by rw [List.mem_singleton.mp hm]
  rows := List.flatMap_singleton classRows n

theorem CutInto.refl (xs : List Node) : CutInto xs xs := by
  refine ⟨xs.map fun n => [n], ?_, List.flatMap_singleton' xs⟩
  rw [List.forall₂_map_right_iff, List.forall₂_same]
  exact fun n _ => Cut.refl n

theorem Cut.partOf {n m : Node} {parts : List Node} (h : Cut n parts) (hm : m ∈ parts) :
    PartOf m n := by
  refine ⟨h.names m hm, ?_⟩
  intro row hrow
  rw [← h.rows]
  exact List.mem_flatMap.mpr ⟨m, hm, hrow⟩

theorem CutInto.accepted {xs ys : List Node} (h : CutInto xs ys) (hxs : Accepted xs) :
    Accepted ys := by
  obtain ⟨blocks, hcut, rfl⟩ := h
  refine hxs.of_partOf ?_
  intro m hm
  obtain ⟨parts, hparts, hmem⟩ := List.mem_flatten.mp hm
  obtain ⟨n, hn, hnp⟩ := exists_mem_of_forall₂ hcut hparts
  exact ⟨n, hn, hnp.partOf hmem⟩

/-- Class elements of one name that follow a class are filed as one with it. -/
theorem merge_sameName {name : String} {ms : List Node} (hname : ∀ m ∈ ms, className? m = some name)
    (hms : ∀ m ∈ ms, ClassDistinct m) {rows : List Node} (hrows : ∀ row ∈ rows, RowDistinct row)
    {cs : List Class} (hcs : ∀ c ∈ cs, c.Regular) (hc : Ascending cs) :
    Shelf.merge Class.merge (putWith Class.merge { name, lines := linesOf rows } cs)
        (ms.map classOf) =
      putWith Class.merge { name, lines := linesOf (rows ++ ms.flatMap classRows) } cs := by
  -- the class that was filed first takes the rows of one further element at a time
  induction ms generalizing rows with
  | nil => rw [List.map_nil, merge_nil, List.flatMap_nil, List.append_nil]
  | cons m ms ih =>
      rw [List.forall_mem_cons] at hname hms
      have hmrows : ∀ row ∈ classRows m, RowDistinct row := hms.1
      have hboth : ∀ row ∈ rows ++ classRows m, RowDistinct row :=
        List.forall_mem_append.mpr ⟨hrows, hmrows⟩
      rw [List.map_cons, merge_cons, classOf_eq hname.1,
        Class.joins_merge.putWith_putWith hcs hc (regular_class hrows) (regular_class hmrows) rfl,
        merge_linesOf hrows hmrows, ih hname.2 hms.2 hboth, List.flatMap_cons, List.append_assoc]

/-- What a class element is cut into is filed like the element. -/
theorem Cut.merge_eq {n : Node} {parts : List Node} (h : Cut n parts) (hn : ClassSound n)
    (hk : ClassDistinct n) {cs : List Class} (hcs : ∀ c ∈ cs, c.Regular) (hc : Ascending cs) :
    Shelf.merge Class.merge cs (parts.map classOf) = putWith Class.merge (classOf n) cs := by
  obtain ⟨name, hname⟩ := Option.isSome_iff_exists.mp hn.1
  have hnames : ∀ m ∈ parts, className? m = some name := fun m hm => (h.names m hm).trans hname
  have hdistinct : ∀ m ∈ parts, ClassDistinct m :=
    fun m hm row hrow => hk row ((h.partOf hm).2 hrow)
  cases parts with
  | nil => exact absurd rfl h.ne_nil
  | cons m ms =>
      rw [List.forall_mem_cons] at hnames hdistinct
      rw [List.map_cons, merge_cons, classOf_eq hnames.1,
        merge_sameName hnames.2 hdistinct.2 hdistinct.1 hcs hc, classOf_eq hname, ← h.rows,
        List.flatMap_cons]

/-- Cut class elements are filed like the elements they are cut from. -/
theorem merge_cutInto {xs ys : List Node} (h : CutInto xs ys) (hxs : Accepted xs)
    {cs : List Class} (hcs : ∀ c ∈ cs, c.Regular) (hc : Ascending cs) :
    Shelf.merge Class.merge cs (ys.map classOf) = Shelf.merge Class.merge cs (xs.map classOf) := by
  obtain ⟨blocks, hcut, rfl⟩ := h
  -- `cs` is what has been filed so far
  induction hcut generalizing cs with
  | nil => rfl
  | @cons n parts ns blocks hn _ ih =>
      obtain ⟨⟨hsound, hdistinct⟩, hns⟩ := List.forall_mem_cons.mp hxs
      have hnext : ∀ c ∈ putWith Class.merge (classOf n) cs, c.Regular :=
        Class.joins_merge.forall_mem_putWith hcs (regular_classOf hdistinct)
      rw [List.flatten_cons, List.map_append, merge_append, hn.merge_eq hsound hdistinct hcs hc,
        List.map_cons, merge_cons]
      exact ih hns hnext (hc.putWith Class.keepsKey_merge (classOf n))

/-- **Grouping**: class elements that are cut into several have the same project. -/
theorem projectOf_cutInto {xs ys : List Node} (h : CutInto xs ys) (hxs : Accepted xs) :
    projectOf ys = projectOf xs :=
  congrArg Project.mk
    (merge_cutInto h hxs (List.forall_mem_nil _) ascending_nil)

/-! ## Order -/

/-- The same name, and the same rows in some order. -/
def SameRows (n m : Node) : Prop :=
  className? n = className? m ∧ (classRows n).Perm (classRows m)

/-- Class elements in another order, each with its rows in another order. -/
def Shuffled (xs ys : List Node) : Prop :=
  ∃ zs, xs.Perm zs ∧ List.Forall₂ SameRows zs ys

theorem Shuffled.refl (xs : List Node) : Shuffled xs xs :=
  ⟨xs, .refl xs, List.forall₂_same.mpr fun _ _ => ⟨rfl, .refl _⟩⟩

theorem Shuffled.accepted {xs ys : List Node} (h : Shuffled xs ys) (hxs : Accepted xs) :
    Accepted ys := by
  obtain ⟨zs, hperm, hsame⟩ := h
  refine hxs.of_partOf ?_
  intro m hm
  obtain ⟨n, hn, hname, hrows⟩ := exists_mem_of_forall₂ hsame hm
  exact ⟨n, hperm.mem_iff.mpr hn, hname.symm, hrows.symm.subset⟩

/-- Class elements that are permuted after a shuffle are shuffled. -/
theorem Shuffled.perm {xs ys zs : List Node} (h : Shuffled xs ys) (hp : ys.Perm zs) :
    Shuffled xs zs := by
  obtain ⟨ws, hperm, hsame⟩ := h
  -- class elements can be permuted before their rows are
  have hboth : Relation.Comp (List.Forall₂ SameRows) List.Perm ws zs := ⟨ys, hsame, hp⟩
  rw [List.forall₂_comp_perm_eq_perm_comp_forall₂] at hboth
  obtain ⟨vs, hvs, hsame'⟩ := hboth
  exact ⟨vs, hperm.trans hvs, hsame'⟩

/-- Rows in another order give the same lines without methods. -/
theorem forget_linesOf_perm {rows rows' : List Node} (h : rows.Perm rows')
    (hrows : ∀ row ∈ rows, RowDistinct row) :
    (linesOf rows).map Line.withoutMethod = (linesOf rows').map Line.withoutMethod := by
  have hforget : ∀ rs : List Node, (linesOf rs).map Line.withoutMethod =
      Shelf.merge Line.merge [] ((rs.filterMap rowLine?).map Line.withoutMethod) :=
    fun rs => map_merge_hom Line.key_withoutMethod Line.withoutMethod_merge [] _
  have hmethodless : ∀ l ∈ (rows.filterMap rowLine?).map Line.withoutMethod, l.Methodless := by
    rw [List.forall_mem_map]
    exact fun l hl => (regular_of_mem_rowLines hrows l hl).withoutMethod
  rw [hforget, hforget]
  exact Line.commutes_merge.merge_perm ((h.filterMap rowLine?).map Line.withoutMethod)
    (List.forall_mem_nil _) hmethodless ascending_nil

/-- A class element with its rows in another order has the same class without methods. -/
theorem SameRows.forgetMethods_classOf {n m : Node} (h : SameRows n m) (hn : ClassDistinct n) :
    (classOf n).forgetMethods = (classOf m).forgetMethods := by
  have hname : (classOf n).name = (classOf m).name := by
    rw [classOf, classOf, h.1]
  have hlines : (classOf n).lines.map Line.withoutMethod =
      (classOf m).lines.map Line.withoutMethod :=
    forget_linesOf_perm h.2 hn
  rw [← Class.lines_forgetMethods, ← Class.lines_forgetMethods] at hlines
  exact congrArg₂ Class.mk hname hlines

/-- Methods can be forgotten before the classes of a project are filed. -/
theorem forgetMethods_projectOf (ns : List Node) :
    (projectOf ns).forgetMethods =
      { classes := Shelf.merge Class.merge [] (ns.map fun n => (classOf n).forgetMethods) } := by
  have hkey : ∀ c : Class, key c.forgetMethods = key c := fun _ => rfl
  have hclasses : (projectOf ns).classes.map Class.forgetMethods =
      Shelf.merge Class.merge [] ((ns.map classOf).map Class.forgetMethods) :=
    map_merge_hom hkey Class.forgetMethods_merge [] _
  rw [← Project.classes_forgetMethods, List.map_map] at hclasses
  exact congrArg Project.mk hclasses

/-- **Order**: shuffled class elements have the same project without methods. -/
theorem projectOf_shuffled {xs ys : List Node} (h : Shuffled xs ys) (hxs : Accepted xs) :
    (projectOf ys).forgetMethods = (projectOf xs).forgetMethods := by
  obtain ⟨zs, hperm, hsame⟩ := h
  have hzs : ∀ n ∈ zs, ClassDistinct n := fun n hn => (hxs n (hperm.mem_iff.mpr hn)).2
  have hmap : zs.map (fun n => (classOf n).forgetMethods) =
      ys.map fun n => (classOf n).forgetMethods := by
    have hboth := (List.forall₂_and_left zs ys).mpr ⟨hzs, hsame⟩
    rw [← List.forall₂_eq_eq_eq, List.forall₂_map_left_iff, List.forall₂_map_right_iff]
    exact hboth.imp fun n m hnm => hnm.2.forgetMethods_classOf hnm.1
  have hmethodless : ∀ c ∈ xs.map fun n => (classOf n).forgetMethods, c.Methodless := by
    rw [List.forall_mem_map]
    exact fun n hn => (regular_classOf (hxs n hn).2).forgetMethods
  have hclasses := Class.commutes_merge.merge_perm
    (hperm.map fun n => (classOf n).forgetMethods) (List.forall_mem_nil _)
    hmethodless ascending_nil
  rw [forgetMethods_projectOf, forgetMethods_projectOf, ← hmap, hclasses]

/-! ## Files -/

/-- The path leads to a file with the document. -/
structure Holds (w : Workspace) (path : Path) (root : Node) : Prop where
  /-- The file exists. -/
  existsAt : w.existsAt path = .ok true
  /-- Its bytes are the document. -/
  bytes : ∃ bytes, w.read path = .ok bytes ∧ ofBytes? bytes = .ok root
  /-- The document is a report. -/
  isRoot : isRoot root = true

/-- The paths lead to files with the documents, in this order. -/
def Documents (w : Workspace) (paths : List Path) (roots : List Node) : Prop :=
  List.Forall₂ (Holds w) paths roots

/-- The report of a file is that of its document. -/
theorem Holds.loadReport_eq_ok {w : Workspace} {path : Path} {root : Node} (h : Holds w path root)
    (ha : Accepted (classElements root)) :
    (loadReport w path).2 = .ok (projectOf (classElements root)) := by
  obtain ⟨bytes, hread, hroot⟩ := h.bytes
  have hproject : (project path.text root).2 = .ok (projectOf (classElements root)) :=
    project?_eq_ok_iff.mpr ⟨h.isRoot, fun n hn => (ha n hn).1, rfl⟩
  simp only [loadReport, h.existsAt, hread, projectOfDocument, hroot, Logged.mapError, hproject]
  rfl

/-- What follows a result decides the result of both. -/
private theorem snd_andThen {ε α β : Type} {x : Logged ε α} {a : α} (h : x.2 = .ok a)
    (next : α → Logged ε β) : (x.andThen next).2 = (next a).2 := by
  obtain ⟨log, result⟩ := x
  cases h
  rfl

/-- The class elements of documents that are loaded one after another are filed one after
another. -/
theorem loadInto_eq_ok {w : Workspace} {paths : List Path} {roots : List Node}
    (h : Documents w paths roots) (ha : Accepted (roots.flatMap classElements)) {p : Project}
    (hp : ∀ c ∈ p.classes, c.Regular) (hasc : Ascending p.classes) :
    (loadInto w p paths).2 =
      .ok { classes :=
              Shelf.merge Class.merge p.classes ((roots.flatMap classElements).map classOf) } := by
  induction h generalizing p with
  | nil => rfl
  | @cons path root paths roots hpath _ ih =>
      rw [List.flatMap_cons] at ha ⊢
      obtain ⟨hroot, hmore⟩ := List.forall_mem_append.mp ha
      have hregular := regular_of_mem_classes hroot
      have hmerge : p.merge (projectOf (classElements root)) =
          { classes := Shelf.merge Class.merge p.classes ((classElements root).map classOf) } :=
        congrArg Project.mk (Class.joins_merge.merge_merge hp
          (List.forall_mem_nil _) hregular hasc ascending_nil)
      rw [loadInto, snd_andThen (hpath.loadReport_eq_ok hroot), hmerge, List.map_append,
        merge_append]
      exact ih hmore (Class.joins_merge.forall_mem_merge hp hregular)
        (hasc.merge Class.keepsKey_merge _)

/-- **Files**: the project of several files is that of all their class elements. -/
theorem loadReports_eq_ok {w : Workspace} {paths : List Path} {roots : List Node}
    (h : Documents w paths roots) (ha : Accepted (roots.flatMap classElements)) :
    (loadReports w paths).2 = .ok (projectOf (roots.flatMap classElements)) :=
  loadInto_eq_ok h ha (List.forall_mem_nil _) ascending_nil

/-- Files in another order hold the documents in another order. -/
theorem Documents.perm {w : Workspace} {paths paths' : List Path} {roots : List Node}
    (h : Documents w paths roots) (hp : paths'.Perm paths) :
    ∃ roots', Documents w paths' roots' ∧ roots'.Perm roots :=
  List.perm_comp_forall₂ hp h

/-! ## Documents -/

/-- Class elements that are cut and then put in another order, each with its rows in another
order. -/
def Regrouped (xs ys : List Node) : Prop :=
  ∃ zs, CutInto xs zs ∧ Shuffled zs ys

theorem Regrouped.accepted {xs ys : List Node} (h : Regrouped xs ys) (hxs : Accepted xs) :
    Accepted ys := by
  obtain ⟨zs, hcut, hshuffled⟩ := h
  exact hshuffled.accepted (hcut.accepted hxs)

theorem projectOf_regrouped {xs ys : List Node} (h : Regrouped xs ys) (hxs : Accepted xs) :
    (projectOf ys).forgetMethods = (projectOf xs).forgetMethods := by
  obtain ⟨zs, hcut, hshuffled⟩ := h
  rw [projectOf_shuffled hshuffled (hcut.accepted hxs), projectOf_cutInto hcut hxs]

/-- **Grouping and order do not matter**: if a document is accepted and no switch repeats a key,
then its class elements cut into several, in one document or in several files, give the same
project; and any order of rows, class elements and files gives it but for the methods. -/
theorem project_regroup {source : String} {root : Node} {p : Project}
    (hp : project? source root = .ok p) (hk : ∀ n ∈ classElements root, ClassDistinct n) :
    (∀ source' root', isRoot root' = true →
        CutInto (classElements root) (classElements root') → project? source' root' = .ok p) ∧
      (∀ w paths roots, Documents w paths roots →
        CutInto (classElements root) (roots.flatMap classElements) →
          (loadReports w paths).2 = .ok p) ∧
      (∀ source' root', isRoot root' = true →
        Regrouped (classElements root) (classElements root') →
          ∃ q, project? source' root' = .ok q ∧ q.forgetMethods = p.forgetMethods) ∧
      ∀ w paths paths' roots, Documents w paths roots → paths'.Perm paths →
        Regrouped (classElements root) (roots.flatMap classElements) →
          ∃ q, (loadReports w paths').2 = .ok q ∧ q.forgetMethods = p.forgetMethods := by
  obtain ⟨_, hsound, rfl⟩ := project?_eq_ok_iff.mp hp
  have ha : Accepted (classElements root) := fun n hn => ⟨hsound n hn, hk n hn⟩
  refine ⟨?_, ?_, ?_, ?_⟩
  · intro source' root' hroot hcut
    have hsound' := fun n hn => (hcut.accepted ha n hn).1
    exact project?_eq_ok_iff.mpr ⟨hroot, hsound', projectOf_cutInto hcut ha⟩
  · intro w paths roots hdocs hcut
    rw [loadReports_eq_ok hdocs (hcut.accepted ha), projectOf_cutInto hcut ha]
  · intro source' root' hroot h
    have hsound' := fun n hn => (h.accepted ha n hn).1
    exact ⟨_, project?_eq_ok_iff.mpr ⟨hroot, hsound', rfl⟩, projectOf_regrouped h ha⟩
  · intro w paths paths' roots hdocs hperm h
    obtain ⟨roots', hdocs', hroots⟩ := hdocs.perm hperm
    obtain ⟨zs, hcut, hshuffled⟩ := h
    have h' : Regrouped (classElements root) (roots'.flatMap classElements) :=
      ⟨zs, hcut, hshuffled.perm (hroots.symm.flatMap_right classElements)⟩
    exact ⟨_, loadReports_eq_ok hdocs' (h'.accepted ha), projectOf_regrouped h' ha⟩

end CoverageDiff.Cobertura

/-! ## Samples -/

namespace CoverageDiff.Sample

open Markup Files Cobertura

/-- A row with a switch. -/
def switchRow : Node :=
  .element "line" [("number", "3"), ("hits", "1"), ("method", "run")]
    [.element "conditions" []
      [.element "condition"
        [("number", "0"), ("type", "switch"), ("keys", "7 2"), ("hits", "1 0")] []]]

/-- A row of the same line, but of another method. -/
def plainRow : Node :=
  .element "line" [("number", "3"), ("hits", "2"), ("method", "main")] []

/-- A class element with rows. -/
def classNode (rows : List Node) : Node :=
  .element "class" [("name", "A")] [.element "lines" [] rows]

/-- A report with class elements. -/
def reportNode (classes : List Node) : Node :=
  .element "coverage" [] classes

/-- The project of both rows. -/
def bothRows : Project where
  classes :=
    [{ name := "A",
       lines :=
         [{ number := 3, hits := 3, method := some "run", switches := [⟨0, [7, 2], [1, 0], 0⟩] }] }]

/-- A report with the row that has a switch, as text. -/
def switchText : String :=
  "<coverage><class name='A'><lines><line number='3' hits='1' method='run'><conditions>"
    ++ "<condition number='0' type='switch' keys='7 2' hits='1 0'/>"
    ++ "</conditions></line></lines></class></coverage>"

/-- A report with the other row, as text. -/
def plainText : String :=
  "<coverage><class name='A'><lines><line number='3' hits='2' method='main'/></lines></class>"
    ++ "</coverage>"

/-- Each row in a file of its own. -/
def twoFiles : Workspace where
  tree :=
    { entries :=
        [(["a.xml"], .file (Text.encodeUtf8 switchText.toList)),
          (["b.xml"], .file (Text.encodeUtf8 plainText.toList))] }

theorem documents_twoFiles :
    Documents twoFiles [{ names := ["a.xml"] }, { names := ["b.xml"] }]
      [reportNode [classNode [switchRow]], reportNode [classNode [plainRow]]] := by
  have hswitch : ofBytes? (Text.encodeUtf8 switchText.toList) =
      .ok (reportNode [classNode [switchRow]]) := by decide +kernel
  have hplain : ofBytes? (Text.encodeUtf8 plainText.toList) =
      .ok (reportNode [classNode [plainRow]]) := by decide +kernel
  refine .cons ⟨?_, ⟨_, ?_, hswitch⟩, ?_⟩ (.cons ⟨?_, ⟨_, ?_, hplain⟩, ?_⟩ .nil)
  all_goals decide +kernel

/-- Two rows of one line in one class element, in two, and in two files, in both orders. -/
theorem reports_of_two_rows :
    project? "one.xml" (reportNode [classNode [switchRow, plainRow]]) = .ok bothRows ∧
      project? "two.xml" (reportNode [classNode [switchRow], classNode [plainRow]]) =
        .ok bothRows ∧
      (loadReports twoFiles [{ names := ["a.xml"] }, { names := ["b.xml"] }]).2 = .ok bothRows ∧
      (∃ q, project? "other.xml" (reportNode [classNode [plainRow, switchRow]]) = .ok q ∧
        q.forgetMethods = bothRows.forgetMethods) ∧
      ∃ q, (loadReports twoFiles [{ names := ["b.xml"] }, { names := ["a.xml"] }]).2 = .ok q ∧
        q.forgetMethods = bothRows.forgetMethods := by
  have hone : project? "one.xml" (reportNode [classNode [switchRow, plainRow]]) = .ok bothRows := by
    decide +kernel
  obtain ⟨hcut, hfiles, hshuffled, horder⟩ := project_regroup hone (by decide +kernel)
  have hparts : CutInto [classNode [switchRow, plainRow]]
      [classNode [switchRow], classNode [plainRow]] := by
    refine ⟨[[classNode [switchRow], classNode [plainRow]]], .cons ?_ .nil, rfl⟩
    exact ⟨List.cons_ne_nil _ _, by decide +kernel, rfl⟩
  have hswap : Shuffled [classNode [switchRow, plainRow]] [classNode [plainRow, switchRow]] := by
    refine ⟨_, .refl _, .cons ⟨by decide +kernel, ?_⟩ .nil⟩
    exact .swap plainRow switchRow []
  refine ⟨hone, ?_, ?_, ?_, ?_⟩
  · exact hcut "two.xml" _ (by decide +kernel) hparts
  · exact hfiles twoFiles _ _ documents_twoFiles hparts
  · exact hshuffled "other.xml" _ (by decide +kernel) ⟨_, CutInto.refl _, hswap⟩
  · exact horder twoFiles _ _ _ documents_twoFiles (.swap _ _ _) ⟨_, hparts, Shuffled.refl _⟩

end CoverageDiff.Sample
