import CoverageDiff.CommandLine.Outcome

/-!
# CoverageDiff.CommandLine.Run

The commands.

1. `diff` selects classes by the patterns of the settings and of the command
   line together, and ends with the status for equivalent or different
   reports.
2. `status` lists every line of the classes asked for, in ascending order;
   classes that the report lacks are always reported.
3. A result without text is not delivered.
4. The standard output is no terminal: it is given rows unless another format
   is asked for, and colours only on request.
-/

namespace CoverageDiff.CommandLine

open Files

/-! ## Comparing -/

/-- The filter of the settings and a request. -/
def filterOf? (s : Settings) (r : DiffRequest) : Except FilterError ClassFilter := do
  let plan := s.filter.append r.filter
  match r.patterns with
  | none => ClassFilter.ofPlan? plan
  | some "" => ClassFilter.ofPlan? plan
  | some text =>
    -- the text is checked by itself first, so that a fault in it is reported first
    let parsed ← ClassFilter.ofPlan? (.ofText text)
    ClassFilter.ofPlan?
      (plan.append ⟨parsed.included.map Pattern.source, parsed.excluded.map Pattern.source⟩)

/-- The format of a request.  Left to the program it is the rows, which suit an output that is no
terminal; on a terminal it would be the listing. -/
def formatOf (s : Settings) (r : DiffRequest) : ReportFormat :=
  match r.format.getD s.format with
  | .auto => .rg
  | .fixed f => f

/-- The path of the current folder. -/
def here : Path := {}

/-- A comparison and its text. -/
structure Rendered where
  /-- The comparison. -/
  report : Report
  text : String
  deriving DecidableEq

/-- The comparison that a request asks for. -/
def renderDiff (w : Workspace) (r : DiffRequest) : Logged Failure Rendered :=
  (Logged.mapError .settings (Settings.load w here)).andThen fun s =>
    Logged.andThen ([], (filterOf? s r).mapError .filter) fun f =>
      (Logged.mapError .load
        (compareFiles w ⟨[r.baseline], r.baselineMode⟩ ⟨[r.current], r.currentMode⟩ (some f))).andThen
        fun c =>
          ([], ((c.report.renderAs (formatOf s r) c.origin (r.color && !r.noColor)).mapError
            .render).map fun text => ⟨c.report, text⟩)

/-- The message on the result of a comparison. -/
def verdictEntry (r : Report) : LogEntry :=
  ⟨.info,
    if r.isEmpty then "coverage is equivalent"
    else toString r.size ++ " coverage difference(s) found"⟩

/-- The status for a comparison. -/
def verdict (r : Report) : ExitStatus :=
  if r.isEmpty then .ok else .different

/-- Compares. -/
def runDiff (w : Workspace) (g : Globals) (before : List Message) (r : DiffRequest) : Outcome :=
  match renderDiff w r with
  | (log, .error f) => .failed w g (before ++ g.shown log) f
  | (log, .ok d) =>
    .delivered w g (before ++ g.shown log) (g.shown [verdictEntry d.report]) (verdict d.report)
      (deliverText w d.text r.output)

/-! ## Listing statuses -/

/-- The classes that a request names, all of them if it names none. -/
def requestedClasses (p : Project) (r : StatusRequest) : List String :=
  if r.classes.isEmpty then p.classNames else r.classes

/-- The message on a class that a report lacks. -/
def missingEntry (name : String) : LogEntry :=
  ⟨.warning, "class not found in report: " ++ name⟩

/-- The messages on the classes that a report lacks. -/
def missingMessages (p : Project) (names : List String) : List Message :=
  (names.filter fun name => (p.class? name).isNone).map fun name => .entry (missingEntry name)

/-- The row of a line. -/
def statusRow (line : Int × Status) : String :=
  toString line.1 ++ "\t" ++ line.2.name

/-- The rows of all lines of some classes. -/
def statusText (p : Project) (names : List String) : String :=
  joinLines ((p.lineStatuses names).map statusRow)

/-- Lists statuses. -/
def runStatus (w : Workspace) (g : Globals) (before : List Message) (r : StatusRequest) : Outcome :=
  match loadSide w [r.report] none with
  | (log, .error e) => .failed w g (before ++ g.shown log) (.load e)
  | (log, .ok p) =>
    .delivered w g (before ++ g.shown log ++ missingMessages p (requestedClasses p r)) [] .ok
      (deliverText w (statusText p (requestedClasses p r)) r.output)

/-! ## Running -/

/-- The message on debugging. -/
def debugEntry : LogEntry := ⟨.debug, "debug mode active"⟩

/-- The messages before every command. -/
def openingMessages (g : Globals) : List Message :=
  if g.debug then g.shown [debugEntry] else []

/-- Does what a request asks for. -/
def runRequest (w : Workspace) (q : Request) : Outcome :=
  let before := openingMessages q.globals
  match q.task with
  | .version => { status := .ok, delivery := .shown versionPage, workspace := w }
  | .help c => { status := .ok, delivery := .shown (.help c), messages := before, workspace := w }
  | .diff r => runDiff w q.globals before r
  | .status r => runStatus w q.globals before r
  | .completion r =>
    .delivered w q.globals before [] .ok (deliver w (.script r.shell) r.output)

/-- Runs the program on its arguments. -/
def run (w : Workspace) (args : List String) : Outcome :=
  match Request.read args with
  | .ok q => runRequest w q
  | .error e =>
    { status := .usage, messages := [.entry ⟨.error, e.message⟩], workspace := w }

end CoverageDiff.CommandLine
