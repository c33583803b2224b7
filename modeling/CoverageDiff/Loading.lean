import CoverageDiff.Cobertura.Reader
import CoverageDiff.Comparison
import CoverageDiff.Files.Tree
import CoverageDiff.Filter
import CoverageDiff.Markup.Encoding
import CoverageDiff.Report.Origin

/-!
# CoverageDiff.Loading

Coverage trees and comparisons from report files.

1. A side of a comparison can have several report files; they are merged in
   the order given, and the first that cannot be loaded ends the loading.
2. A filter without patterns is not applied.
3. The first side is loaded before the second.
-/

namespace CoverageDiff

open Files

/-! ## Errors -/

/-- Why a report file is not loaded. -/
inductive LoadError where
  /-- There is no such file. -/
  | notFound (p : Path)
  /-- A name in the path is too long. -/
  | nameTooLong (p : Path)
  | isFolder (p : Path)
  /-- It is not a well-formed document. -/
  | malformed (p : Path)
  /-- Its declared encoding takes several bytes for a character. -/
  | wideEncoding
  /-- Its declared encoding is not known. -/
  | unknownEncoding (name : String)
  /-- It is not a coverage report. -/
  | invalid (e : Cobertura.ReadError)
  deriving DecidableEq

namespace LoadError

/-- The wording of an error. -/
def message : LoadError → String
  | notFound p => "coverage report not found: " ++ p.text
  | nameTooLong p => "[Errno 36] File name too long: " ++ Text.quote p.text
  | isFolder p =>
    p.text ++ ": failed to read coverage report: [Errno 21] Is a directory: " ++ Text.quote p.text
  | malformed p => p.text ++ ": failed to parse coverage XML"
  | wideEncoding => "multi-byte encodings are not supported"
  | unknownEncoding name => "unknown encoding: " ++ name
  | invalid e => e.message

/-- The error that a document of a file stands for. -/
def ofDocument (p : Path) : Markup.DocumentError → LoadError
  | .encoding (.wide _) => wideEncoding
  | .encoding (.unknown name) => unknownEncoding name
  | _ => malformed p

end LoadError

/-! ## Projects -/

/-- The project of a document in a file. -/
def projectOfDocument (p : Path) (bytes : List UInt8) : Logged LoadError Project :=
  match Markup.ofBytes? bytes with
  | .error e => .error (.ofDocument p e)
  | .ok root => Logged.mapError .invalid (Cobertura.project p.text root)

/-- The project of one report file. -/
def loadReport (w : Workspace) (p : Path) : Logged LoadError Project :=
  match w.existsAt p with
  | .error _ => .error (.nameTooLong p)
  | .ok false => .error (.notFound p)
  | .ok true =>
    match w.read p with
    | .error _ => .error (.isFolder p)
    | .ok bytes => projectOfDocument p bytes

/-- A project with further report files merged into it. -/
def loadInto (w : Workspace) (project : Project) : List Path → Logged LoadError Project
  | [] => .ok project
  | p :: more => (loadReport w p).andThen fun q => loadInto w (project.merge q) more

/-- The project of several report files. -/
def loadReports (w : Workspace) (paths : List Path) : Logged LoadError Project :=
  loadInto w .empty paths

/-- The project with only the classes that a filter lets pass, if there is a filter with patterns. -/
def selectWith (filter : Option ClassFilter) (p : Project) : Project :=
  match filter with
  | some f => if f.isEmpty then p else p.select f
  | none => p

/-- The project of one side of a comparison. -/
def loadSide (w : Workspace) (paths : List Path) (filter : Option ClassFilter) :
    Logged LoadError Project :=
  (loadReports w paths).andThen fun p => .ok (selectWith filter p)

/-! ## Comparisons -/

/-- The files of one side, and how they were made. -/
structure SidePlan where
  /-- The report files. -/
  paths : List Path
  /-- How they were made. -/
  mode : Option Mode := none
  deriving DecidableEq

/-- Where a side came from. -/
def SidePlan.side (s : SidePlan) (p : Project) : Side where
  reports := s.paths.map Path.text
  mode := s.mode
  lines := some p.statusCounts

/-- The message on a comparison. -/
def comparedEntry (a b : Project) (r : Report) : LogEntry :=
  ⟨.debug, "compared " ++ toString a.classes.length ++ "/" ++ toString b.classes.length
    ++ " classes: " ++ String.intercalate ", "
      (r.counts.map fun (l, n) => l.name ++ "=" ++ toString n)⟩

/-- A comparison, and where its sides came from. -/
structure Compared where
  /-- The comparison. -/
  report : Report
  /-- Where its sides came from. -/
  origin : Origin
  deriving DecidableEq

/-- The comparison of two projects that were loaded. -/
def comparedOf (baseline current : SidePlan) (a b : Project) : Logged LoadError Compared :=
  let r := Report.between a b
  ([comparedEntry a b r], .ok ⟨r, ⟨baseline.side a, current.side b⟩⟩)

/-- The comparison of two sides. -/
def compareFiles (w : Workspace) (baseline current : SidePlan) (filter : Option ClassFilter) :
    Logged LoadError Compared :=
  (loadSide w baseline.paths filter).andThen fun a =>
    (loadSide w current.paths filter).andThen fun b =>
      comparedOf baseline current a b

end CoverageDiff
