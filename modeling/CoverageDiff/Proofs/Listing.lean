import CoverageDiff.Proofs.Layout
import CoverageDiff.Proofs.Rows
import CoverageDiff.Report.Listing

/-!
# CoverageDiff.Proofs.Listing

What a listing shows of the class names.

The cell of a class name is read as a text with tags, so a name can lose a part
of it, and a closing tag can leave no listing at all.  A name stands in its cell
as it is exactly if it is literal (`showsNames_iff`):

* a literal name is the text of its cell, and the layout keeps a text in one
  line (`showsName_of_literal`);
* a name that stands in its cell has all its marks there, and neither reading
  nor layout adds marks to those that are left (`literal_of_showsName`).

Other cells matter only for whether they are read.  Those of numbers, kinds and
of the values that comparisons report are (`row_isOk_iff`,
`readsValues_of_fits`).
-/

namespace CoverageDiff

open Styled Text CoverageDiff.Shelf

theorem Level.mem_all (level : Level) : level ∈ Level.all := by
  cases level <;> decide

/-! ## Tables -/

namespace Styled.Table

/-- The table as it is laid out, without the controls that move the cursor. -/
def laidOut (t : Table) : Table :=
  ⟨t.columns, t.rows.map (List.map dropControls)⟩

/-- The cells that a line of a table takes: its columns with a blank on either side, and the lines
around them. -/
def printedWidth (t : Table) : Nat :=
  (t.laidOut.widths.map (· + 2)).sum + t.columns.length + 1

theorem le_foldl_max {xs : List Nat} (n : Nat) : n ≤ xs.foldl max n ∧ ∀ x ∈ xs, x ≤ xs.foldl max n := by
  induction xs generalizing n with
  | nil => exact ⟨Nat.le_refl n, List.forall_mem_nil _⟩
  | cons x xs ih =>
      obtain ⟨hstart, hrest⟩ := ih (max n x)
      rw [List.foldl_cons]
      exact ⟨Nat.le_trans (Nat.le_max_left n x) hstart,
        List.forall_mem_cons.mpr ⟨Nat.le_trans (Nat.le_max_right n x) hstart, hrest⟩⟩

/-- The first column is as wide as each of its cells. -/
theorem textWidth_le_widths {t : Table} {column : Column} {columns : List Column}
    (hcolumns : t.columns = column :: columns) {cell : List Piece} {cells : List (List Piece)}
    (hrow : cell :: cells ∈ t.rows) :
    textWidth (plainText (dropControls cell)) ≤ t.laidOut.widths.headD 0 := by
  have hhead : t.laidOut.widths.headD 0 =
      (t.laidOut.rows.map fun row => textWidth (plainText (row[0]?.getD []))).foldl max
        (textWidth column.header.toList) := by
    simp only [widths, laidOut, hcolumns, List.mapIdx_cons, List.headD_cons]
  rw [hhead]
  refine (le_foldl_max _).2 _ (List.mem_map.mpr ⟨dropControls cell :: cells.map dropControls, ?_, rfl⟩)
  exact List.mem_map.mpr ⟨_, hrow, rfl⟩

end Styled.Table

/-! ## What a listing shows -/

namespace Listing

/-- The first cell of a row shows a name as it is, filled up to the width of the column. -/
def ShowsName (t : Table) (name : String) (row : List (List Piece)) : Prop :=
  ∃ cell cells, row = cell :: cells ∧
    Table.cellLines false (t.laidOut.widths.headD 0) false (dropControls cell) =
      [" " ++ name ++ Table.blanks (t.laidOut.widths.headD 0 - cellWidth name.toList) ++ " "]

/-- A report has a listing, with a table for every level that has elements, and in the row of every
element its class name stands as it is. -/
def ShowsNames (r : Report) (origin : Origin) : Prop :=
  ∃ text, render false r origin = .ok text ∧
    ∀ level, r.level level ≠ [] → ∃ t, table level (r.level level) = .ok t ∧
      (t.render false).toList <:+: text.toList ∧
        List.Forall₂ (fun e row => ShowsName t e.className row) (r.level level) t.rows

/-- The text of a cell is read: it closes no tag that is not open. -/
def Reads (text : String) : Prop :=
  ∃ ps, pieces? text.toList = .ok ps

/-- The values of an element are read, if its level shows them. -/
def ReadsValues (level : Level) (e : Element) : Prop :=
  hasLines level = true → Reads (Value.text? e.before) ∧ Reads (Value.text? e.after)

/-- Names in one line, in tables that fit a page of 10000 cells.  The page has that width: in a
wider table the columns are narrowed, and names are folded, literal or not. -/
structure Displayable (r : Report) : Prop where
  oneLine : ∀ level, ∀ e ∈ r.level level, OneLine e.className.toList
  fits : ∀ level t, table level (r.level level) = .ok t → t.printedWidth ≤ 10000

/-! ## Rows -/

variable {level : Level} {e : Element} {elements : List Element}

theorem row_eq_ok_iff {cells : List (List Piece)} :
    row level e = .ok cells ↔
      List.Forall₂ (fun text cell => pieces? text.toList = .ok cell) (cellTexts level e) cells :=
  mapM_eq_ok_iff

theorem table_eq_ok_iff {t : Table} :
    table level elements = .ok t ↔
      t.columns = columns level ∧ List.Forall₂ (fun e cells => row level e = .ok cells) elements t.rows := by
  rw [← mapM_eq_ok_iff, table]
  cases elements.mapM (row level) with
  | error e => simp [Except.map]
  | ok rows =>
      obtain ⟨tcolumns, trows⟩ := t
      simp [Except.map, eq_comm]

theorem table_isOk_iff :
    (∃ t, table level elements = .ok t) ↔ ∀ e ∈ elements, ∃ cells, row level e = .ok cells := by
  rw [table, map_isOk_iff, mapM_isOk_iff]

theorem reads_of_notMem {text : String} (h : '[' ∉ text.toList) : Reads text := by
  obtain ⟨ps, hps, _⟩ := (noTag_of_notMem h).pieces?
  exact ⟨ps, hps⟩

theorem reads_numberText (n : Option Int) : Reads (numberText n) := by
  cases n with
  | none => exact reads_of_notMem (by decide)
  | some i => exact reads_of_notMem (notMem_toString (by decide) i)

theorem reads_kind (k : Kind) : Reads ("[" ++ k.colorName ++ "]" ++ k.name ++ "[/]") := by
  refine isOk_of_isSome ?_
  cases k <;> decide +kernel

/-- Values that a comparison can report are read. -/
theorem readsValues_of_fits (h : e.Fits level) : ReadsValues level e := by
  have hvalue : ∀ v, level.Carries v → '[' ∉ v.text.toList := by
    intro v hv
    cases hv with
    | status s => cases s <;> decide
    | outcome o =>
        obtain ⟨t, f⟩ := o
        cases t <;> cases f <;> decide
    | cases labels hlabels =>
        refine Value.notMem_text_cases (by decide) fun label hlabel => ?_
        rcases hlabels label hlabel with rfl | ⟨k, rfl⟩
        · decide
        · exact notMem_toString (by decide) k
  have hreads : ∀ x : Option Value, (∀ v, x = some v → level.Carries v) → Reads (Value.text? x) := by
    intro x hx
    cases x with
    | none => exact reads_of_notMem (by decide)
    | some v => exact reads_of_notMem (hvalue v (hx v rfl))
  exact fun _ => ⟨hreads _ h.before, hreads _ h.after⟩

/-- **A row** is read if its class name and its values are. -/
theorem row_isOk_iff :
    (∃ cells, row level e = .ok cells) ↔ Reads e.className ∧ ReadsValues level e := by
  have hcells : (∃ cells, row level e = .ok cells) ↔ ∀ text ∈ cellTexts level e, Reads text := by
    rw [row, mapM_isOk_iff]
    rfl
  rw [hcells]
  cases level <;>
    simp only [cellTexts, hasLines, hasIndexes, ReadsValues, reads_kind, reads_numberText,
      List.forall_mem_append, List.forall_mem_cons, List.not_mem_nil, if_true, if_false,
      Bool.false_eq_true, and_true, true_implies, false_implies, implies_true]

/-- The first cell of a row is read from the class name. -/
theorem exists_cell_of_row {cells : List (List Piece)} (h : row level e = .ok cells) :
    ∃ cell rest, cells = cell :: rest ∧ pieces? e.className.toList = .ok cell := by
  have htexts : ∃ more, cellTexts level e = e.className :: more := ⟨_, rfl⟩
  obtain ⟨more, htexts⟩ := htexts
  have hread := row_eq_ok_iff.mp h
  rw [htexts, List.forall₂_cons_left_iff] at hread
  obtain ⟨cell, rest, hcell, _, rfl⟩ := hread
  exact ⟨cell, rest, rfl, hcell⟩

/-! ## Names -/

/-- A name that is shown as it is has lost no marks, so it is literal. -/
theorem literal_of_showsName {t : Table} {cells : List (List Piece)}
    (hrow : row level e = .ok cells) (h : ShowsName t e.className cells) :
    Literal e.className.toList := by
  obtain ⟨cell, rest, rfl, hcell⟩ := exists_cell_of_row hrow
  obtain ⟨_, _, heq, hlines⟩ := h
  cases heq
  have hshown := sum_markCount_cellLines_le (t.laidOut.widths.headD 0) (dropControls cell)
  have hdrop := markCount_dropControls_le cell
  rw [hlines] at hshown
  simp only [List.map_cons, List.map_nil, List.sum_cons, List.sum_nil, String.toList_append,
    markCount_append] at hshown
  refine (literal_or_lt hcell).resolve_right ?_
  omega

theorem showsName_of_literal {t : Table} {cells : List (List Piece)}
    (hcolumns : t.columns = columns level) (hmem : cells ∈ t.rows) (hrow : row level e = .ok cells)
    (hline : OneLine e.className.toList) (h : Literal e.className.toList) :
    ShowsName t e.className cells := by
  obtain ⟨cell, rest, rfl, hcell⟩ := exists_cell_of_row hrow
  obtain ⟨ps, hps, htext⟩ := h.pieces?
  obtain rfl := Except.ok.inj (hcell.symm.trans hps)
  have hone : OneLine (plainText cell) := htext ▸ hline
  have hwidth := Table.textWidth_le_widths hcolumns hmem
  rw [dropControls_eq_self hone, textWidth_eq hone] at hwidth
  refine ⟨cell, rest, rfl, ?_⟩
  rw [dropControls_eq_self hone, cellLines_of_oneLine hone hwidth, htext, String.ofList_toList]

/-! ## Listings -/

theorem infix_intercalate (sep : String) {s : String} {ss : List String} (h : s ∈ ss) :
    s.toList <:+: (sep.intercalate ss).toList := by
  rw [String.toList_intercalate]
  induction ss with
  | nil => cases h
  | cons u us ih =>
      cases us with
      | nil =>
          rw [List.mem_singleton.mp h, List.map_singleton, List.intercalate_singleton]
      | cons v us =>
          rw [List.map_cons, List.map_cons, List.intercalate_cons_cons]
          rcases List.mem_cons.mp h with rfl | h
          · rw [List.append_assoc]
            exact (List.prefix_append _ _).isInfix
          · exact (ih h).trans (List.suffix_append _ _).isInfix

/-- Tables that are read make a listing, which has the text of each table that has rows. -/
theorem exists_render {r : Report} (h : ∀ level, ∃ t, table level (r.level level) = .ok t)
    (origin : Origin) :
    ∃ text, render false r origin = .ok text ∧
      ∀ level t, r.level level ≠ [] → table level (r.level level) = .ok t →
        (t.render false).toList <:+: text.toList := by
  rw [render]
  split
  · next hempty =>
      refine ⟨_, rfl, fun level t hne => absurd ?_ hne⟩
      have hall := List.all_eq_true.mp hempty level level.mem_all
      exact List.isEmpty_iff.mp hall
  · have hblocks : ∀ l ∈ Level.all.filter fun l => !(r.level l).isEmpty,
        ∃ b, block false l (r.level l) = .ok b := by
      intro l _
      obtain ⟨t, ht⟩ := h l
      exact ⟨_, by rw [block, ht]; rfl⟩
    obtain ⟨blocks, hread⟩ := mapM_isOk_iff.mpr hblocks
    refine ⟨_, by simp only [hread]; rfl, ?_⟩
    intro level t hne ht
    have hlevel : level ∈ Level.all.filter fun l => !(r.level l).isEmpty := by
      refine List.mem_filter.mpr ⟨level.mem_all, ?_⟩
      simpa using hne
    obtain ⟨b, hb, hblock⟩ := exists_mem_of_forall₂ (mapM_eq_ok_iff.mp hread).flip hlevel
    rw [block, ht] at hblock
    cases hblock
    have hinfix := infix_intercalate "\n\n" hb
    rw [String.toList_append] at hinfix
    refine ((List.suffix_append _ _).isInfix.trans hinfix).trans ?_
    simp only [String.toList_append, List.append_assoc]
    exact (List.prefix_append _ _).isInfix.trans (List.suffix_append _ _).isInfix

theorem literal_of_showsNames {r : Report} {origin : Origin} (h : ShowsNames r origin)
    (he : e ∈ r.level level) : Literal e.className.toList ∧ ReadsValues level e := by
  obtain ⟨_, _, htables⟩ := h
  obtain ⟨t, ht, _, hshown⟩ := htables level (List.ne_nil_of_mem he)
  obtain ⟨_, hrows⟩ := table_eq_ok_iff.mp ht
  obtain ⟨i, hi, rfl⟩ := List.getElem_of_mem he
  have hrow := hrows.get hi (hrows.length_eq ▸ hi)
  have hname := hshown.get hi (hrows.length_eq ▸ hi)
  exact ⟨literal_of_showsName hrow hname, (row_isOk_iff.mp ⟨_, hrow⟩).2⟩

/-- **Which listings show the class names**: those of reports whose class names are literal, and
whose values are read. -/
theorem showsNames_iff (r : Report) (origin : Origin) (h : Displayable r) :
    ShowsNames r origin ↔
      ∀ level, ∀ e ∈ r.level level, Literal e.className.toList ∧ ReadsValues level e := by
  constructor
  · exact fun hshows level e he => literal_of_showsNames hshows he
  · intro hall
    have htables : ∀ level, ∃ t, table level (r.level level) = .ok t := by
      refine fun level => table_isOk_iff.mpr fun e he => row_isOk_iff.mpr ?_
      obtain ⟨hliteral, hvalues⟩ := hall level e he
      obtain ⟨ps, hps, _⟩ := hliteral.pieces?
      exact ⟨⟨ps, hps⟩, hvalues⟩
    obtain ⟨text, htext, hinfix⟩ := exists_render htables origin
    refine ⟨text, htext, fun level hne => ?_⟩
    obtain ⟨t, ht⟩ := htables level
    obtain ⟨hcolumns, hrows⟩ := table_eq_ok_iff.mp ht
    refine ⟨t, ht, hinfix level t hne ht, List.forall₂_iff_zip.mpr ⟨hrows.length_eq, ?_⟩⟩
    intro e cells hzip
    obtain ⟨he, hcells⟩ := List.of_mem_zip hzip
    exact showsName_of_literal hcolumns hcells ((List.forall₂_iff_zip.mp hrows).2 hzip)
      (h.oneLine level e he) (hall level e he).1

end Listing

/-! ## Samples -/

namespace Sample

open Listing

/-- A report with names that look like markup, but are none. -/
def unusualNames : Report :=
  { classes := [{ className := "a[0]", kind := .added }],
    lines := [
      { className := "List<[T]>", kind := .changed, place := .line 3,
        before := some (.status .full), after := some (.status .none) }],
    jumps := [
      { className := "C:\\Foo", kind := .removed, place := .branch 3 0,
        before := some (.outcome (true, false)) }],
    switches := [
      { className := "Foo: Bar", kind := .changed, place := .branch 4 0,
        before := some (.cases ["7", "default"]), after := some (.cases []) }] }

/-- Names with brackets, backslashes and colons that are shown as they are, at every level. -/
theorem unusualNames_shown :
    Displayable unusualNames ∧
      (∀ level, ∀ e ∈ unusualNames.level level,
        Literal e.className.toList ∧ ReadsValues level e) ∧
      ShowsNames unusualNames {} := by
  have hdisplayable : Displayable unusualNames := by
    refine ⟨fun level => by cases level <;> decide +kernel, fun level t ht => ?_⟩
    have hfits : ∀ level ∈ Level.all, (table level (unusualNames.level level)).toOption.all
        (fun t => decide (t.printedWidth ≤ 10000)) = true := by decide +kernel
    have hlevel := hfits level level.mem_all
    rw [ht] at hlevel
    simpa [Except.toOption] using hlevel
  have hshown : ∀ level, ∀ e ∈ unusualNames.level level,
      Literal e.className.toList ∧ ReadsValues level e := by
    have hliteral : ∀ level ∈ Level.all, ∀ e ∈ unusualNames.level level,
        Literal e.className.toList := by decide +kernel
    have hvalues : ∀ level ∈ Level.all, ∀ e ∈ unusualNames.level level,
        (pieces? (Value.text? e.before).toList).toOption.isSome = true ∧
          (pieces? (Value.text? e.after).toList).toOption.isSome = true := by decide +kernel
    intro level e he
    obtain ⟨hbefore, hafter⟩ := hvalues level level.mem_all e he
    exact ⟨hliteral level level.mem_all e he,
      fun _ => ⟨isOk_of_isSome hbefore, isOk_of_isSome hafter⟩⟩
  exact ⟨hdisplayable, hshown, (showsNames_iff unusualNames {} hdisplayable).mpr hshown⟩

/-- A report on one class that was added. -/
def addedClass (name : String) : Report :=
  { classes := [{ className := name, kind := .added }] }

/-- A tag in a name vanishes, so that names are no longer told apart, and a closing one leaves no
listing. -/
theorem tags_in_names :
    (∀ name ∈ ["a[b]", "a[c]", "a[/x]"], OneLine name.toList) ∧
      ¬ShowsNames (addedClass "a[b]") {} ∧
      render false (addedClass "a[b]") {} = render false (addedClass "a[c]") {} ∧
      render false (addedClass "a[/x]") {} = .error (.noOpenTag "x") := by
  refine ⟨by decide +kernel, ?_, by decide +kernel, by decide +kernel⟩
  intro hshows
  have he : { className := "a[b]", kind := .added } ∈ (addedClass "a[b]").level .classes :=
    List.mem_cons_self
  have hliteral : ¬Literal "a[b]".toList := by decide +kernel
  exact hliteral (literal_of_showsNames hshows he).1

end Sample

end CoverageDiff
