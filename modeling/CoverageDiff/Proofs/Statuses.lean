import CoverageDiff.Proofs.Loaded
import CoverageDiff.Proofs.Rows

/-!
# CoverageDiff.Proofs.Statuses

The statuses of the lines of several classes.

1. Adding a class changes what is found under the numbers that have no status
   yet, and no other (`find?_addStatuses`, the step lemma).  So over any list of
   names a number has the status of the first class that has it
   (`find?_lineStatuses`, by induction on the list).
2. `ListsStatuses` says the same of a list of lines without the walk over the
   classes, and determines the list (`ListsStatuses.unique`).
3. A listing shows these lines as rows, or writes them to a file, each on a line
   of its own (`prints_of_delivers`).
-/

namespace CoverageDiff

open CoverageDiff.Shelf

/-! ## The first class with a line -/

/-- A line as it is listed. -/
def Line.entry (l : Line) : Int × Status :=
  (l.number, l.status)

theorem keys_map_entry (ls : List Line) : keys (ls.map Line.entry) = keys ls := by
  rw [keys, keys, List.map_map]
  rfl

/-- Of two classes with one line the earlier gives its status. -/
theorem merge_old {α : Type} (a b : Option α) : Option.merge (fun old _ => old) a b = a.or b := by
  cases a <;> cases b <;> rfl

theorem findSome?_filterMap {α β γ : Type} (f : β → Option γ) (g : α → Option β) (xs : List α) :
    (xs.filterMap g).findSome? f = xs.findSome? fun x => (g x).bind f := by
  induction xs with
  | nil => rfl
  | cons x xs ih => cases h : g x <;> simp [List.findSome?_cons, h, ih]

namespace Project

theorem ascending_addStatuses {known : List (Int × Status)} (h : Ascending known) (c : Class) :
    Ascending (addStatuses known c) :=
  Ascending.merge (fun _ _ _ => rfl) _ h

/-- **Step lemma**: a class adds the numbers that have no status yet. -/
theorem find?_addStatuses {known : List (Int × Status)} (h : Ascending known) {c : Class}
    (hc : (keys c.lines).Nodup) (n : Int) :
    find? n (addStatuses known c) = (find? n known).or ((c.line? n).map Line.entry) := by
  have hkeys : (keys (c.lines.map Line.entry)).Nodup := by rwa [keys_map_entry]
  have hfound : find? n (c.lines.map Line.entry) = (c.line? n).map Line.entry :=
    find?_map (f := Line.entry) (fun _ => rfl) n c.lines
  rw [← hfound, ← merge_old]
  exact find?_merge (fun _ _ _ => rfl) h hkeys n

theorem ascending_foldl_addStatuses {known : List (Int × Status)} (h : Ascending known)
    (cs : List Class) : Ascending (cs.foldl addStatuses known) := by
  induction cs generalizing known with
  | nil => exact h
  | cons c cs ih => exact ih (ascending_addStatuses h c)

/-- **Run lemma**: of some classes the first that has a number adds it. -/
theorem find?_foldl_addStatuses {known : List (Int × Status)} (h : Ascending known)
    {cs : List Class} (hcs : ∀ c ∈ cs, (keys c.lines).Nodup) (n : Int) :
    find? n (cs.foldl addStatuses known) =
      (find? n known).or ((cs.findSome? fun c => c.line? n).map Line.entry) := by
  induction cs generalizing known with
  | nil => simp
  | cons c cs ih =>
      have hc := hcs c List.mem_cons_self
      have hrest : ∀ d ∈ cs, (keys d.lines).Nodup := fun d hd => hcs d (List.mem_cons_of_mem c hd)
      rw [List.foldl_cons, ih (ascending_addStatuses h c) hrest, find?_addStatuses h hc,
        Option.or_assoc, List.findSome?_cons]
      cases c.line? n <;> simp

variable {p : Project} {names : List String} {n : Int} {l : Line}

/-- A number has the status of the first of the named classes that has it. -/
theorem find?_lineStatuses (h : p.Reachable) (names : List String) (n : Int) :
    find? n (p.lineStatuses names) =
      (names.findSome? fun name => p.line? name n).map Line.entry := by
  have hdistinct : ∀ c ∈ names.filterMap p.class?, (keys c.lines).Nodup := by
    intro c hc
    obtain ⟨name, _, hname⟩ := List.mem_filterMap.mp hc
    exact h.wellFormed.distinct.lines_of_class? hname
  rw [lineStatuses, find?_foldl_addStatuses ascending_nil hdistinct, find?_nil, Option.none_or,
    findSome?_filterMap]
  rfl

theorem ascending_lineStatuses (p : Project) (names : List String) :
    Ascending (p.lineStatuses names) :=
  ascending_foldl_addStatuses ascending_nil _

/-- Of the named classes, the first in the order of the names that has a number has it as `l`. -/
def FirstLine (p : Project) (names : List String) (n : Int) (l : Line) : Prop :=
  ∃ before name after, names = before ++ name :: after ∧ p.line? name n = some l ∧
    ∀ other ∈ before, p.line? other n = none

theorem findSome?_eq_some_iff_firstLine :
    (names.findSome? fun name => p.line? name n) = some l ↔ p.FirstLine names n l :=
  List.findSome?_eq_some_iff

theorem FirstLine.number_eq (h : p.FirstLine names n l) : l.number = n := by
  obtain ⟨_, _, _, _, hline, _⟩ := h
  exact number_of_line? hline

/-- The lines of the named classes, strictly ascending, each with the status that it has in the
first class, in the order of the names, that has it. -/
structure ListsStatuses (p : Project) (names : List String) (lines : List (Int × Status)) :
    Prop where
  ascending : Ascending lines
  mem_keys : ∀ n, n ∈ keys lines ↔ ∃ name ∈ names, (p.line? name n).isSome
  mem_iff : ∀ n st, (n, st) ∈ lines ↔ ∃ l, p.FirstLine names n l ∧ l.status = st

/-- There is one such list. -/
theorem ListsStatuses.unique {xs ys : List (Int × Status)} (hx : p.ListsStatuses names xs)
    (hy : p.ListsStatuses names ys) : xs = ys := by
  refine eq_of_pairwise_lt hx.ascending hy.ascending ?_
  rintro ⟨n, st⟩
  rw [hx.mem_iff, hy.mem_iff]

/-- **The first class with a line gives its status.** -/
theorem listsStatuses_lineStatuses (h : p.Reachable) (names : List String) :
    p.ListsStatuses names (p.lineStatuses names) where
  ascending := p.ascending_lineStatuses names
  mem_keys n := by
    have hfound := find?_lineStatuses h names n
    rw [← List.findSome?_isSome_iff, ← not_iff_not, ← find?_eq_none_iff, hfound]
    simp
  mem_iff n st := by
    have hnodup := (p.ascending_lineStatuses names).nodup_keys
    have hfound : find? n (p.lineStatuses names) = some (n, st) ↔ (n, st) ∈ p.lineStatuses names :=
      ⟨mem_of_find?, fun hmem => find?_key_of_mem hnodup hmem⟩
    rw [← hfound, find?_lineStatuses h, Option.map_eq_some_iff]
    simp only [findSome?_eq_some_iff_firstLine]
    constructor
    · rintro ⟨l, hl, hentry⟩
      exact ⟨l, hl, congrArg Prod.snd hentry⟩
    · rintro ⟨l, hl, rfl⟩
      exact ⟨l, hl, Prod.ext hl.number_eq rfl⟩

/-- The names of all classes, ascending. -/
theorem pairwise_classNames (h : p.Reachable) : p.classNames.Pairwise (· < ·) :=
  List.pairwise_map.mpr h.wellFormed.ascending

theorem mem_classNames {name : String} : name ∈ p.classNames ↔ (p.class? name).isSome := by
  rw [← not_iff_not, Bool.not_eq_true, Option.isSome_eq_false_iff, Option.isNone_iff_eq_none]
  exact find?_eq_none_iff.symm

end Project

/-! ## Rows -/

namespace CommandLine

open Files

/-- Rows for some lines, each on a line of its own. -/
def statusRows (lines : List (Int × Status)) : String :=
  String.join (lines.map fun line => statusRow line ++ "\n")

theorem joinLines_append_lineFeed {rows : List String} (h : rows ≠ []) :
    joinLines rows ++ "\n" = String.join (rows.map fun row => row ++ "\n") := by
  induction rows with
  | nil => exact absurd rfl h
  | cons row rows ih =>
      cases rows with
      | nil => simp [joinLines]
      | cons next rows =>
          have htail := ih (List.cons_ne_nil next rows)
          rw [joinLines, String.intercalate_cons_cons, List.map_cons, String.join_cons, ← htail,
            joinLines]
          simp only [String.append_assoc]

theorem statusText_append_lineFeed {p : Project} {names : List String}
    (h : statusText p names ≠ "") :
    statusText p names ++ "\n" = statusRows (p.lineStatuses names) := by
  have hne : (p.lineStatuses names).map statusRow ≠ [] := by
    intro hnil
    exact h (statusText_eq_empty_iff.mpr (List.map_eq_nil_iff.mp hnil))
  rw [statusText, joinLines_append_lineFeed hne, List.map_map]
  rfl

theorem statusRows_of_empty {p : Project} {names : List String} (h : statusText p names = "") :
    statusRows (p.lineStatuses names) = "" := by
  rw [statusText_eq_empty_iff.mp h]
  rfl

/-- A row has no styling. -/
theorem plain_statusRows (lines : List (Int × Status)) :
    Styled.plain (statusRows lines) = statusRows lines := by
  have hrow : ∀ line : Int × Status, '\x1b' ∉ (statusRow line).toList := by
    rintro ⟨n, st⟩
    have hnumber := notMem_toString (d := '\x1b') (by decide) n
    have hname : '\x1b' ∉ st.name.toList := by cases st <;> decide
    simp [statusRow, -Int.toString_eq_repr, hnumber, hname]
  have hrows : '\x1b' ∉ (statusRows lines).toList := by
    induction lines with
    | nil => simp [statusRows]
    | cons line lines ih =>
        rw [statusRows, List.map_cons, String.join_cons, ← statusRows]
        simp [hrow line, ih]
  rw [Styled.plain, Styled.withoutSequences_eq_self hrows, String.ofList_toList]

/-- A run comes to its end and shows rows, or writes them to a file. -/
structure Prints (w : Workspace) (output : Option Path) (rows : String) (o : Outcome) : Prop where
  status : o.status = .ok
  failure : o.failure = none
  onScreen : (∀ p, output = some p → isScreen p = true) → o.output = rows ∧ o.workspace = w
  inFile : ∀ p, output = some p → isScreen p = false → rows ≠ "" →
    o.output = "" ∧ o.workspace.read p = .ok (Text.encodeUtf8 rows.toList)

variable {w : Workspace} {o : Outcome} {p : Project} {names : List String} {output : Option Path}

/-- What is shown or written of a listing are its rows. -/
theorem prints_of_delivers (h : Delivers w output (statusText p names) o) (hstatus : o.status = .ok)
    (hfailure : o.failure = none) : Prints w output (statusRows (p.lineStatuses names)) o where
  status := hstatus
  failure := hfailure
  onScreen hscreen := by
    by_cases htext : statusText p names = ""
    · obtain ⟨hnothing, hw⟩ := h.empty htext
      rw [statusRows_of_empty htext, Outcome.output, hnothing]
      exact ⟨rfl, hw⟩
    · obtain ⟨hshown, hw⟩ := h.shown htext hscreen
      rw [Outcome.output, hshown]
      refine ⟨?_, hw⟩
      show Styled.plain (statusText p names ++ "\n") = _
      rw [statusText_append_lineFeed htext, plain_statusRows]
  inFile q hq hscreen hrows := by
    have htext : statusText p names ≠ "" := fun he => hrows (statusRows_of_empty he)
    obtain ⟨hsaved, hread⟩ := h.saved q htext hq hscreen
    have hpage : (Page.result (statusText p names)).inFile =
        Text.encodeUtf8 (statusText p names ++ "\n").toList := rfl
    rw [Outcome.output, hsaved, hread, hpage, statusText_append_lineFeed htext]
    exact ⟨rfl, rfl⟩

/-- A listing of a report that is loaded prints its rows, unless a file cannot be written. -/
theorem runStatus_prints {r : StatusRequest} (g : Globals) (before : List Message)
    (hload : (loadSide w [r.report] none).2 = .ok p) :
    Prints w r.output (statusRows (p.lineStatuses (requestedClasses p r)))
        (runStatus w g before r) ∨
      ∃ path e, r.output = some path ∧ isScreen path = false ∧
        (runStatus w g before r).failure = some (.write path e) := by
  unfold runStatus
  split
  · next log e heq =>
      rw [heq] at hload
      contradiction
  · next log q heq =>
      rw [heq] at hload
      cases hload
      cases hd : deliverText w (statusText p (requestedClasses p r)) r.output with
      | ok x => exact .inl (prints_of_delivers (delivers_of_deliverText hd) rfl rfl)
      | error e =>
          obtain ⟨path, pe, _, hpath, hscreen, rfl⟩ := deliverText_eq_error hd
          exact .inr ⟨path, pe, hpath, hscreen, rfl⟩

/-- **Statuses of several classes**: over any names, known or not, a reachable project has the
status of a line number exactly if one of the named classes has the line, and it is that of the
first such class in the order of the names.  A listing of a report prints a row for each such line,
strictly ascending by number: over the classes that are asked for, or over all classes in the order
of their names if none is. -/
theorem statuses_of_first_class :
    (∀ p : Project, p.Reachable → ∀ names, p.ListsStatuses names (p.lineStatuses names)) ∧
      ∀ (w : Workspace) (args : List String) (q : Request) (r : StatusRequest) (p : Project),
        Request.read args = .ok q → q.task = .status r →
        (loadSide w [r.report] none).2 = .ok p →
        ∃ asked lines, p.ListsStatuses asked lines ∧
          (r.classes ≠ [] → asked = r.classes) ∧
          (r.classes = [] → asked.Pairwise (· < ·) ∧
            ∀ name, name ∈ asked ↔ (p.class? name).isSome) ∧
          (Prints w r.output (statusRows lines) (run w args) ∨
            ∃ path e, r.output = some path ∧ isScreen path = false ∧
              (run w args).failure = some (.write path e)) := by
  refine ⟨fun p hp names => Project.listsStatuses_lineStatuses hp names, ?_⟩
  intro w args q r p hread htask hload
  have hp : p.Reachable := reachable_of_loadSide hload
  refine ⟨requestedClasses p r, p.lineStatuses (requestedClasses p r),
    Project.listsStatuses_lineStatuses hp _, ?_, ?_, ?_⟩
  · intro hne
    simp [requestedClasses, hne]
  · intro hnil
    have hasked : requestedClasses p r = p.classNames := by simp [requestedClasses, hnil]
    rw [hasked]
    exact ⟨Project.pairwise_classNames hp, fun name => Project.mem_classNames⟩
  · have hrun : run w args = runStatus w q.globals (openingMessages q.globals) r := by
      simp only [run, hread, runRequest, htask]
    rw [hrun]
    exact runStatus_prints q.globals (openingMessages q.globals) hload

end CommandLine

namespace Sample

open Files CommandLine

/-- Two classes that share a line. -/
def sharedLine : Project where
  classes := [
    { name := "A", lines := [{ number := 1, hits := 1 }, { number := 3, hits := 0 }] },
    { name := "B", lines := [{ number := 1, hits := 0 }, { number := 2, hits := 5 }] }]

/-- A report on the two classes. -/
def sharedLineReport : Workspace where
  tree := { entries := [(["c.xml"], .file (Text.encodeUtf8
    ("<coverage><class name='A'><lines><line number='1' hits='1'/><line number='3' hits='0'/>"
      ++ "</lines></class><class name='B'><lines><line number='1' hits='0'/>"
      ++ "<line number='2' hits='5'/></lines></class></coverage>").toList))] }

/-- Some of the classes and one that is unknown. -/
def statusesOfB : StatusRequest where
  report := .ofText "c.xml"
  classes := ["B", "Z", "A", "B"]

/-- A line has the status of the class that is named first. -/
theorem statuses_of_B :
    sharedLine.Reachable ∧
      sharedLine.ListsStatuses ["Z", "A", "B"] [(1, .full), (2, .full), (3, .none)] ∧
      (run sharedLineReport
        ["status", "c.xml", "--class", "B", "--class", "Z", "--class", "A", "--class", "B"]).output =
          "1\tNONE\n2\tFULL\n3\tNONE\n" := by
  have hreachable : sharedLine.Reachable := by decide +kernel
  have hlines : sharedLine.lineStatuses ["Z", "A", "B"] = [(1, .full), (2, .full), (3, .none)] := by
    decide +kernel
  obtain ⟨hstatuses, hlisting⟩ := statuses_of_first_class
  refine ⟨hreachable, hlines ▸ hstatuses sharedLine hreachable ["Z", "A", "B"], ?_⟩
  obtain ⟨asked, lines, hlists, hasked, _, hprints⟩ := hlisting sharedLineReport
    ["status", "c.xml", "--class", "B", "--class", "Z", "--class", "A", "--class", "B"]
    { task := .status statusesOfB } statusesOfB sharedLine (by decide +kernel) rfl
    (by decide +kernel)
  have hrows : lines = [(1, .none), (2, .full), (3, .none)] := by
    rw [hlists.unique (hstatuses sharedLine hreachable asked), hasked (by decide)]
    decide +kernel
  cases hprints with
  | inl h => rw [(h.onScreen (by simp [statusesOfB])).1, hrows]; decide +kernel
  | inr h => obtain ⟨_, _, hnone, _⟩ := h; contradiction

end Sample

end CoverageDiff
