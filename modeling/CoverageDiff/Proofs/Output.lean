import CoverageDiff.Proofs.ExitStatus

/-!
# CoverageDiff.Proofs.Output

What a file holds that a result was to be written to, whatever it held before.

Two runs of one command line are compared, in workspaces that differ at the
output file alone.

1. Settings and reports are the same in both, where the output path names none
   of them (`settings_congr`, `loadReport_congr`), and so is all that is done
   before the delivery (`exists_prepared`).
2. A text is written in both runs, and read back (`conclude_congr`).
3. No text is written in neither run, and the file is left as it was.  That is
   so for rows of equivalent reports and for statuses of no lines
   (`renderAs_eq_empty_iff`, `statusText_eq_empty_iff`).
-/

namespace CoverageDiff

open Files

/-! ## Texts without characters -/

/-- Lines that are not empty make a text, if there are any. -/
theorem intercalate_eq_empty_iff {separator : String} {lines : List String}
    (h : ∀ line ∈ lines, line ≠ "") : separator.intercalate lines = "" ↔ lines = [] := by
  cases lines with
  | nil => simp
  | cons line lines =>
      have hline := h line List.mem_cons_self
      cases lines <;> simp [hline]

theorem Listing.render_ne_empty {color : Bool} {r : Report} {origin : Origin} {text : String}
    (h : Listing.render color r origin = .ok text) : text ≠ "" := by
  unfold Listing.render at h
  split at h
  · cases h
    simp
  · simp only [Except.map] at h
    split at h
    · contradiction
    · cases h
      simp

theorem Payload.render_ne_empty {r : Report} {origin : Origin} {version text : String}
    (h : Payload.render? r origin version = .ok text) : text ≠ "" := by
  unfold Payload.render? at h
  split at h
  · contradiction
  · next doc hdoc =>
      split at h
      · cases h
        simp only [build?, Except.map] at hdoc
        split at hdoc
        · contradiction
        · cases hdoc
          simp [Json.render, document, Json.renderAt]
      · contradiction

theorem Report.rowsText_eq_empty_iff {r : Report} : r.rowsText = "" ↔ r.isEmpty = true := by
  have hrows : ∀ row ∈ r.rows, row ≠ "" := by
    intro row hrow
    obtain ⟨⟨level, e⟩, _, rfl⟩ := List.mem_map.mp hrow
    simp [Element.row]
  rw [rowsText, intercalate_eq_empty_iff hrows, rows, List.map_eq_nil_iff,
    ← List.length_eq_zero_iff, length_elements, isEmpty_iff]

/-- **Empty results**: rows of an empty report are the only text without characters. -/
theorem Report.renderAs_eq_empty_iff {r : Report} {format : ReportFormat} {origin : Origin}
    {color : Bool} {text : String} (h : r.renderAs format origin color = .ok text) :
    text = "" ↔ format = .rg ∧ r.isEmpty = true := by
  cases format with
  | human =>
      have hrender : Listing.render color r origin = .ok text := by
        cases hlisting : Listing.render color r origin <;>
          simp_all [renderAs, Except.mapError]
      simp [Listing.render_ne_empty hrender]
  | rg =>
      cases h
      simp [rowsText_eq_empty_iff]
  | json =>
      have hrender : Payload.render? r origin Payload.currentVersion = .ok text := by
        cases hpayload : Payload.render? r origin Payload.currentVersion <;>
          simp_all [renderAs, Except.mapError]
      simp [Payload.render_ne_empty hrender]

namespace CommandLine

theorem statusText_eq_empty_iff {p : Project} {names : List String} :
    statusText p names = "" ↔ p.lineStatuses names = [] := by
  have hrows : ∀ row ∈ (p.lineStatuses names).map statusRow, row ≠ "" := by
    intro row hrow
    obtain ⟨line, _, rfl⟩ := List.mem_map.mp hrow
    simp [statusRow]
  rw [statusText, joinLines, intercalate_eq_empty_iff hrows, List.map_eq_nil_iff]

end CommandLine

/-! ## Reading in workspaces that differ at one path -/

section Reading

variable {w w' : Workspace} {p x : Path}

/-- The paths do not lead to one place. -/
def LeadApart (w : Workspace) (p x : Path) : Prop :=
  ∀ place, w.tree.locate w.current p = .ok place → w.tree.locate w.current x ≠ .ok place

/-- The path does not lead to a configuration file or to an entry that marks a repository. -/
def NotConfig (w : Workspace) (p : Path) : Prop :=
  ∀ folder, w.tree.locate w.current p ≠ .ok (folder ++ [configName]) ∧
    w.tree.locate w.current p ≠ .ok (folder ++ [repositoryName])

theorem existsAt_congr (h : w.DifferAt p w') (hx : LeadApart w p x) :
    w.existsAt x = w'.existsAt x := by
  rw [Workspace.existsAt, Workspace.existsAt, ← h.current]
  rcases h.same_or_differ with hsame | ⟨place, hdiffer, hlocate⟩
  · rw [Tree.existsAt, Tree.existsAt, hsame.find]
  · exact hdiffer.existsAt (hx place hlocate)

theorem read_congr (h : w.DifferAt p w') (hx : LeadApart w p x)
    (hexists : w.existsAt x = .ok true) : w.read x = w'.read x := by
  rw [Workspace.read, Workspace.read, ← h.current]
  rcases h.same_or_differ with hsame | ⟨place, hdiffer, hlocate⟩
  · rw [Tree.read, Tree.read, hsame.find]
  · exact hdiffer.read (hx place hlocate) hexists

/-- A report is the same in both, found or not. -/
theorem loadReport_congr (h : w.DifferAt p w') (hx : LeadApart w p x) :
    loadReport w x = loadReport w' x := by
  unfold loadReport
  rw [← existsAt_congr h hx]
  cases hexists : w.existsAt x with
  | error e => rfl
  | ok found =>
      cases found with
      | false => rfl
      | true => simp only [read_congr h hx hexists]

theorem loadSide_congr (h : w.DifferAt p w') (hx : LeadApart w p x) (f : Option ClassFilter) :
    loadSide w [x] f = loadSide w' [x] f := by
  simp only [loadSide, loadReports, loadInto, loadReport_congr h hx]

theorem at?_congr (h : w.DifferAt p w') {place : Location}
    (hplace : w.tree.locate w.current p ≠ .ok place) : w.tree.at? place = w'.tree.at? place := by
  by_contra hne
  exact hplace (h.places place hne)

theorem projectRoot_congr (h : w.DifferAt p w') (hp : NotConfig w p) (start : Path) :
    projectRoot w start = projectRoot w' start := by
  have hroot : isProjectRoot w.tree = isProjectRoot w'.tree := by
    funext folder
    rw [isProjectRoot, isProjectRoot, at?_congr h (hp folder).1, at?_congr h (hp folder).2]
  rw [projectRoot, projectRoot, hroot, h.current]

/-- The settings are the same in both. -/
theorem settings_congr (h : w.DifferAt p w') (hp : NotConfig w p) (start : Path) :
    Settings.load w start = Settings.load w' start := by
  simp only [Settings.load, ← projectRoot_congr h hp start,
    at?_congr h (hp (projectRoot w start)).1]

end Reading

namespace CommandLine

/-! ## What is done before the delivery -/

/-- A result that is to be delivered, and what is said with it. -/
structure Result where
  before : List Message
  after : List Message
  status : ExitStatus
  text : String

/-- The result of a command, or its failure and what was said before it. -/
abbrev Prepared := Except (List Message × Failure) Result

/-- Delivers a result to the output. -/
def conclude (w : Workspace) (g : Globals) (output : Option Path) : Prepared → Outcome
  | .error (m, e) => .failed w g m e
  | .ok x => .delivered w g x.before x.after x.status (deliverText w x.text output)

/-- What a comparison is to deliver. -/
def prepareDiff (w : Workspace) (g : Globals) (before : List Message) (r : DiffRequest) :
    Prepared :=
  match renderDiff w r with
  | (log, .error e) => .error (before ++ g.shown log, e)
  | (log, .ok d) =>
    .ok ⟨before ++ g.shown log, g.shown [verdictEntry d.report], verdict d.report, d.text⟩

/-- What a listing of statuses is to deliver. -/
def prepareStatus (w : Workspace) (g : Globals) (before : List Message) (r : StatusRequest) :
    Prepared :=
  match loadSide w [r.report] none with
  | (log, .error e) => .error (before ++ g.shown log, .load e)
  | (log, .ok p) =>
    .ok ⟨before ++ g.shown log ++ missingMessages p (requestedClasses p r), [], .ok,
      statusText p (requestedClasses p r)⟩

theorem runDiff_eq (w : Workspace) (g : Globals) (before : List Message) (r : DiffRequest) :
    runDiff w g before r = conclude w g r.output (prepareDiff w g before r) := by
  unfold runDiff prepareDiff
  obtain ⟨log, e | d⟩ := renderDiff w r <;> rfl

theorem runStatus_eq (w : Workspace) (g : Globals) (before : List Message) (r : StatusRequest) :
    runStatus w g before r = conclude w g r.output (prepareStatus w g before r) := by
  unfold runStatus prepareStatus
  obtain ⟨log, e | p⟩ := loadSide w [r.report] none <;> rfl

/-! ## Two runs -/

/-- The run ended as one that was not interrupted, with 0 or 1 for its exit code. -/
structure Finishes (o : Outcome) : Prop where
  code : o.status.code = 0 ∨ o.status.code = 1
  failure : o.failure = none

theorem not_finishes_failed (w : Workspace) (g : Globals) (m : List Message) (e : Failure) :
    ¬Finishes (Outcome.failed w g m e) := by
  unfold Outcome.failed Outcome.ending
  rintro ⟨hcode, hfailure⟩
  revert hcode hfailure
  cases h : e.handling with
  | foreseen status text =>
      obtain ⟨hzero, hone⟩ := Failure.code_of_foreseen h
      cases g.debug <;> simp [hzero, hone]
  | unforeseen => cases g.debug <;> simp [ExitStatus.code]
  | misuse => simp [ExitStatus.code]
  | unhandled => simp

/-- Two runs end in the same way. -/
structure EndAlike (o o' : Outcome) : Prop where
  status : o.status = o'.status
  messages : o.messages = o'.messages
  delivery : o.delivery = o'.delivery
  failure : o.failure = o'.failure

/-- A text was saved at a path in both runs, or nothing was written in either. -/
structure SavedAlike (w w' : Workspace) (p : Path) (text : String) (o o' : Outcome) : Prop
    extends EndAlike o o' where
  saved : text ≠ "" → o.delivery = .saved p (.result text) ∧
    o.workspace.read p = .ok (Page.result text).inFile ∧
    o'.workspace.read p = .ok (Page.result text).inFile
  kept : text = "" → o.delivery = .nothing ∧ o.workspace = w ∧ o'.workspace = w'

variable {w w' : Workspace} {g : Globals} {p : Path}

/-- A result that is delivered in one run is delivered in the other. -/
theorem conclude_congr (h : w.DifferAt p w') (hp : isScreen p = false) {x : Prepared}
    (hfin : Finishes (conclude w g (some p) x)) :
    ∃ y, x = .ok y ∧
      SavedAlike w w' p y.text (conclude w g (some p) x) (conclude w' g (some p) x) := by
  cases x with
  | error failed => exact absurd hfin (not_finishes_failed w g failed.1 failed.2)
  | ok y =>
      refine ⟨y, rfl, ?_⟩
      by_cases htext : y.text = ""
      · have hnothing : ∀ v : Workspace, deliverText v y.text (some p) = .ok (v, .nothing) := by
          intro v
          rw [htext]
          rfl
        simp only [conclude, hnothing, Outcome.delivered]
        exact ⟨⟨rfl, rfl, rfl, rfl⟩, fun hne => absurd htext hne, fun _ => ⟨rfl, rfl, rfl⟩⟩
      · have hdeliver : ∀ v : Workspace, deliverText v y.text (some p) =
            ((v.write p (Page.result y.text).inFile).mapError (Failure.write p)).map
              fun v' => (v', .saved p (.result y.text)) := by
          intro v
          rw [deliverText_of_ne htext, deliver_of_not_isScreen hp]
        cases hwrite : w.write p (Page.result y.text).inFile with
        | error e =>
            simp only [conclude, hdeliver, hwrite] at hfin
            exact absurd hfin (not_finishes_failed w g y.before (.write p e))
        | ok u =>
            obtain ⟨u', hwrite', hread, hread'⟩ := h.write hwrite
            simp only [conclude, hdeliver, hwrite, hwrite', Except.mapError, Except.map,
              Outcome.delivered]
            exact ⟨⟨rfl, rfl, rfl, rfl⟩, fun _ => ⟨rfl, hread, hread'⟩,
              fun heq => absurd heq htext⟩

/-! ## Commands that deliver a result -/

/-- Where the result of a task is to be written. -/
def Task.output? : Task → Option Path
  | .diff r => r.output
  | .status r => r.output
  | _ => none

/-- The reports that a task reads. -/
def Task.reports : Task → List Path
  | .diff r => [r.baseline, r.current]
  | .status r => [r.report]
  | _ => []

/-- The text of a task's result. -/
inductive ResultText (w : Workspace) : Task → String → Prop
  | diff {r : DiffRequest} {s : Settings} {f : ClassFilter} {a b : Project} {text : String}
      (loads : Loads w r s f a b) (renders : textOf s r a b = .ok text) :
      ResultText w (.diff r) text
  | status {r : StatusRequest} {project : Project}
      (loads : (loadSide w [r.report] none).2 = .ok project) :
      ResultText w (.status r) (statusText project (requestedClasses project r))

/-- A task has no text to deliver: rows of equivalent reports, or statuses of no lines. -/
inductive NoText (w : Workspace) : Task → Prop
  | diff {r : DiffRequest} {s : Settings} {f : ClassFilter} {a b : Project}
      (loads : Loads w r s f a b) (format : formatOf s r = .rg)
      (equivalent : (Report.between a b).isEmpty = true) : NoText w (.diff r)
  | status {r : StatusRequest} {project : Project}
      (loads : (loadSide w [r.report] none).2 = .ok project)
      (lines : project.lineStatuses (requestedClasses project r) = []) : NoText w (.status r)

theorem ResultText.eq_empty_iff {t : Task} {text : String} (h : ResultText w t text) :
    text = "" ↔ NoText w t := by
  cases h with
  | @diff r s f a b _ loads renders =>
      rw [Report.renderAs_eq_empty_iff renders]
      constructor
      · rintro ⟨hformat, hempty⟩
        exact .diff loads hformat hempty
      · intro hno
        cases hno with
        | diff loads' hformat hempty =>
            obtain ⟨rfl, rfl, rfl, rfl⟩ := loads.unique loads'
            exact ⟨hformat, hempty⟩
  | @status r project loads =>
      rw [statusText_eq_empty_iff]
      constructor
      · exact fun hlines => .status loads hlines
      · intro hno
        cases hno with
        | status loads' hlines =>
            have hproject := loads.symm.trans loads'
            cases hproject
            exact hlines

theorem resultText_of_prepareDiff {r : DiffRequest} {before : List Message} {y : Result}
    (h : prepareDiff w g before r = .ok y) : ResultText w (.diff r) y.text := by
  unfold prepareDiff at h
  split at h
  · contradiction
  · next log d heq =>
      cases h
      have hd : (renderDiff w r).2 = .ok d := congrArg Prod.snd heq
      rcases renderDiff_cases w r with ⟨s, f, a, b, text, hloads, ht⟩ | ⟨e, _, he⟩
      · have hrendered := hloads.snd_renderDiff.symm.trans hd
        simp only [ht, Except.mapError, Except.map, Except.ok.injEq] at hrendered
        rw [← hrendered]
        exact .diff hloads ht
      · rw [hd] at he
        contradiction

theorem resultText_of_prepareStatus {r : StatusRequest} {before : List Message} {y : Result}
    (h : prepareStatus w g before r = .ok y) : ResultText w (.status r) y.text := by
  unfold prepareStatus at h
  split at h
  · contradiction
  · next log project heq =>
      cases h
      exact .status (congrArg Prod.snd heq)

theorem renderDiff_congr (h : w.DifferAt p w') (hconfig : NotConfig w p) {r : DiffRequest}
    (hbaseline : LeadApart w p r.baseline) (hcurrent : LeadApart w p r.current) :
    renderDiff w r = renderDiff w' r := by
  simp only [renderDiff, compareFiles, settings_congr h hconfig, loadSide_congr h hbaseline,
    loadSide_congr h hcurrent]

/-- What a task is to deliver to a path, in both workspaces. -/
theorem exists_prepared (h : w.DifferAt p w') (hconfig : NotConfig w p) {q : Request}
    (houtput : q.task.output? = some p) (hreports : ∀ x ∈ q.task.reports, LeadApart w p x) :
    ∃ x : Prepared, runRequest w q = conclude w q.globals (some p) x ∧
      runRequest w' q = conclude w' q.globals (some p) x ∧
      ∀ y, x = .ok y → ResultText w q.task y.text := by
  obtain ⟨g, task⟩ := q
  cases task with
  | diff r =>
      have hr : r.output = some p := houtput
      have hbaseline := hreports r.baseline List.mem_cons_self
      have hcurrent := hreports r.current (List.mem_cons_of_mem _ List.mem_cons_self)
      have hprepare : prepareDiff w' g (openingMessages g) r =
          prepareDiff w g (openingMessages g) r := by
        simp only [prepareDiff, renderDiff_congr h hconfig hbaseline hcurrent]
      refine ⟨prepareDiff w g (openingMessages g) r, ?_, ?_, fun y => resultText_of_prepareDiff⟩
      · simp only [runRequest, runDiff_eq, hr]
      · simp only [runRequest, runDiff_eq, hr, hprepare]
  | status r =>
      have hr : r.output = some p := houtput
      have hreport := hreports r.report List.mem_cons_self
      have hprepare : prepareStatus w' g (openingMessages g) r =
          prepareStatus w g (openingMessages g) r := by
        simp only [prepareStatus, loadSide_congr h hreport]
      refine ⟨prepareStatus w g (openingMessages g) r, ?_, ?_,
        fun y => resultText_of_prepareStatus⟩
      · simp only [runRequest, runStatus_eq, hr]
      · simp only [runRequest, runStatus_eq, hr, hprepare]
  | completion r => simp [Task.output?] at houtput
  | version => simp [Task.output?] at houtput
  | help c => simp [Task.output?] at houtput

/-- **Output files**: of two runs of a comparison or a listing in workspaces that differ at the
output file alone, both end alike if one finishes, and a result that has a text is what the file
then holds in both.  A result without text, that is rows of equivalent reports or statuses of no
lines, is not written, and the file stays as it was in each. -/
theorem output_of_two_runs {args : List String} {q : Request}
    (hread : Request.read args = .ok q) (houtput : q.task.output? = some p)
    (hscreen : isScreen p = false) (h : w.DifferAt p w') (hconfig : NotConfig w p)
    (hreports : ∀ x ∈ q.task.reports, LeadApart w p x) (hfin : Finishes (run w args)) :
    ∃ text, ResultText w q.task text ∧ (text = "" ↔ NoText w q.task) ∧
      SavedAlike w w' p text (run w args) (run w' args) := by
  have hrun : ∀ v : Workspace, run v args = runRequest v q := by
    intro v
    simp only [run, hread]
  obtain ⟨x, hx, hx', htext⟩ := exists_prepared h hconfig houtput hreports
  rw [hrun, hx] at hfin
  obtain ⟨y, rfl, hsaved⟩ := conclude_congr h hscreen hfin
  have hresult := htext y rfl
  rw [hrun, hrun, hx, hx']
  exact ⟨y.text, hresult, hresult.eq_empty_iff, hsaved⟩

end CommandLine

/-! ## Samples -/

namespace Sample

open Files CommandLine

/-- The path of an output file. -/
def outputPath : Path := .ofText "out.txt"

/-- The reports, and what an earlier run wrote. -/
def staleOutput : Workspace where
  tree := reportsAndFolder.tree.set ["out.txt"] (.file (Text.encodeUtf8 "stale\n".toList))

theorem locate_outputPath :
    reportsAndFolder.tree.locate reportsAndFolder.current outputPath = .ok ["out.txt"] := by
  decide +kernel

theorem differAt_outputPath : reportsAndFolder.DifferAt outputPath staleOutput := by
  refine Workspace.differAt_set locate_outputPath (by decide) ?_
  intro other hother hne
  cases other with
  | nil => decide
  | cons name names => simp_all

theorem notConfig_outputPath : NotConfig reportsAndFolder outputPath := by
  intro folder
  rw [locate_outputPath]
  constructor <;> simp [configName, repositoryName, List.singleton_eq_append_iff]

theorem leadApart_outputPath {x : Path} {place : Location}
    (hx : reportsAndFolder.tree.locate reportsAndFolder.current x = .ok place)
    (hne : place ≠ ["out.txt"]) : LeadApart reportsAndFolder outputPath x := by
  intro other hother
  rw [locate_outputPath, Except.ok.injEq] at hother
  rw [hx, ← hother]
  simpa using hne

/-- A report compared with itself. -/
def withItself : DiffRequest where
  baseline := .ofText "a.xml"
  current := .ofText "a.xml"
  output := some outputPath

/-- Both runs find the reports equivalent and write nothing, so that one leaves what an earlier run
wrote, and the other no file. -/
theorem stale_output_kept :
    Request.read ["diff", "a.xml", "a.xml", "--output", "out.txt"] =
        .ok { task := .diff withItself } ∧
      isScreen outputPath = false ∧ reportsAndFolder.DifferAt outputPath staleOutput ∧
      NotConfig reportsAndFolder outputPath ∧
      (∀ x ∈ (Task.diff withItself).reports, LeadApart reportsAndFolder outputPath x) ∧
      Finishes (run reportsAndFolder ["diff", "a.xml", "a.xml", "--output", "out.txt"]) ∧
      Finishes (run staleOutput ["diff", "a.xml", "a.xml", "--output", "out.txt"]) ∧
      (run reportsAndFolder
        ["diff", "a.xml", "a.xml", "--output", "out.txt"]).workspace.read outputPath =
          .error .missing ∧
      (run staleOutput
        ["diff", "a.xml", "a.xml", "--output", "out.txt"]).workspace.read outputPath =
          .ok (Text.encodeUtf8 "stale\n".toList) := by
  have hreport : reportsAndFolder.tree.locate reportsAndFolder.current (.ofText "a.xml") =
      .ok ["a.xml"] := by decide +kernel
  have hapart := leadApart_outputPath hreport (by decide)
  refine ⟨by decide +kernel, by decide +kernel, differAt_outputPath, notConfig_outputPath, ?_, ?_,
    ?_, by decide +kernel, by decide +kernel⟩
  · intro x hx
    simp only [Task.reports, withItself, List.mem_cons, List.not_mem_nil, or_false, or_self] at hx
    exact hx ▸ hapart
  · exact ⟨by decide +kernel, by decide +kernel⟩
  · exact ⟨by decide +kernel, by decide +kernel⟩

/-- Two reports that differ. -/
def withOther : DiffRequest where
  baseline := .ofText "a.xml"
  current := .ofText "b.xml"
  output := some outputPath

/-- What an earlier run wrote is replaced by the rows of this one. -/
theorem stale_output_replaced :
    ∃ text, text ≠ "" ∧
      (run reportsAndFolder
        ["diff", "a.xml", "b.xml", "--output", "out.txt"]).workspace.read outputPath =
          .ok (Page.result text).inFile ∧
      (run staleOutput
        ["diff", "a.xml", "b.xml", "--output", "out.txt"]).workspace.read outputPath =
          .ok (Page.result text).inFile := by
  have hread : Request.read ["diff", "a.xml", "b.xml", "--output", "out.txt"] =
      .ok { task := .diff withOther } := by decide +kernel
  have hbaseline : reportsAndFolder.tree.locate reportsAndFolder.current (.ofText "a.xml") =
      .ok ["a.xml"] := by decide +kernel
  have hcurrent : reportsAndFolder.tree.locate reportsAndFolder.current (.ofText "b.xml") =
      .ok ["b.xml"] := by decide +kernel
  have hreports : ∀ x ∈ (Task.diff withOther).reports,
      LeadApart reportsAndFolder outputPath x := by
    intro x hx
    simp only [Task.reports, withOther, List.mem_cons, List.not_mem_nil, or_false] at hx
    rcases hx with rfl | rfl
    · exact leadApart_outputPath hbaseline (by decide)
    · exact leadApart_outputPath hcurrent (by decide)
  have hfin : Finishes (run reportsAndFolder
      ["diff", "a.xml", "b.xml", "--output", "out.txt"]) :=
    ⟨by decide +kernel, by decide +kernel⟩
  have hdelivery : (run reportsAndFolder
      ["diff", "a.xml", "b.xml", "--output", "out.txt"]).delivery ≠ .nothing := by
    decide +kernel
  obtain ⟨text, _, _, hsaved⟩ := output_of_two_runs hread rfl (by decide +kernel)
    differAt_outputPath notConfig_outputPath hreports hfin
  have htext : text ≠ "" := fun htext => hdelivery (hsaved.kept htext).1
  exact ⟨text, htext, (hsaved.saved htext).2⟩

end Sample

end CoverageDiff
