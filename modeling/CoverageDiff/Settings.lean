import CoverageDiff.Files.Tree
import CoverageDiff.Filter
import CoverageDiff.Log
import CoverageDiff.Report.Rendering
import CoverageDiff.Text.LineEnd
import CoverageDiff.Toml.Reader

/-!
# CoverageDiff.Settings

Settings of a project, kept in its configuration file.

1. The nearest folder, from a start upwards, that has a file `pyproject.toml`
   or an entry `.git` is the root of the project; without any it is the start.
2. The settings are the table `tool.covdiff` of the root's `pyproject.toml`;
   without that file or that table they have their defaults.
3. The table can give include and exclude patterns, each as one text or as a
   list of texts, and a format.  Other keys are reported and ignored.
4. Of several faults the first in this order is reported: the file, the
   table, the format, the include patterns, the exclude patterns.  A format
   that is none of the choices is shown, unless it has a number that is too
   long for that.
-/

namespace CoverageDiff

open Files

/-! ## The project -/

/-- The name of the configuration file. -/
def configName : String := "pyproject.toml"

/-- The name of the entry that marks a repository. -/
def repositoryName : String := ".git"

/-- Whether a folder is the root of a project. -/
def isProjectRoot (t : Tree) (place : Files.Location) : Bool :=
  (t.at? (place ++ [configName])).isSome || (t.at? (place ++ [repositoryName])).isSome

/-- The root of the project that a path belongs to. -/
def projectRoot (w : Workspace) (start : Path) : Files.Location :=
  let place := Tree.resolve w.current start
  ((Tree.upwards place).find? (isProjectRoot w.tree)).getD place

/-! ## Formats -/

/-- A choice of a format. -/
inductive FormatChoice where
  /-- The format that suits the output. -/
  | auto
  /-- A certain format. -/
  | fixed (f : ReportFormat)
  deriving DecidableEq

namespace FormatChoice

/-- The word for a choice. -/
def name : FormatChoice → String
  | auto => "auto"
  | fixed f => f.name

/-- All choices. -/
def all : List FormatChoice :=
  [auto, fixed .human, fixed .rg, fixed .json]

/-- The choice that a word stands for. -/
def ofName? (s : String) : Option FormatChoice :=
  all.find? fun c => c.name == s

end FormatChoice

/-! ## Settings -/

/-- The settings of a project. -/
structure Settings where
  /-- Patterns that classes are selected by. -/
  filter : FilterPlan := {}
  /-- The format of reports. -/
  format : FormatChoice := .auto
  /-- The file that they come from. -/
  source : Option Path := none
  deriving DecidableEq

/-- Why there are no settings. -/
inductive SettingsError where
  /-- A folder stands where the file should be. -/
  | isFolder (source : Path)
  /-- The file is not a text. -/
  | undecodable (source : Path)
  /-- The file is not a document. -/
  | malformed (source : Path)
  /-- The file has a number that is too long: to be read, with so many digits, or to be shown. -/
  | tooManyDigits (count : Option Nat)
  /-- The key `tool` is not a table. -/
  | toolNotTable
  /-- The key `covdiff` of it is not a table. -/
  | notTable (source : Path)
  /-- The format is not one of the choices. -/
  | unknownFormat (source : Path) (shown : String)
  /-- A key with patterns holds something else. -/
  | notPatterns (source : Path) (key : String)
  deriving DecidableEq

namespace SettingsError

/-- The wording of an error. -/
def message : SettingsError → String
  | isFolder source =>
    source.text ++ ": [Errno 21] Is a directory: " ++ Text.quote source.text
  | undecodable _ => "the file is not a text"
  | malformed source => source.text
  | tooManyDigits count => Text.tooManyDigits count
  | toolNotTable => "the tools are not a table"
  | notTable source => source.text ++ ": [tool.covdiff] must be a table"
  | unknownFormat source shown =>
    source.text ++ ": [tool.covdiff].format must be one of "
      ++ String.intercalate ", " (FormatChoice.all.map FormatChoice.name) ++ ", got " ++ shown
  | notPatterns source key =>
    source.text ++ ": [tool.covdiff]." ++ key ++ " must be a string or a list of strings"

end SettingsError

namespace Settings

/-! ## The table -/

/-- The keys that have a meaning. -/
def knownKeys : List String := ["include", "exclude", "format"]

/-- The other keys of a table, in ascending order. -/
def unknownKeys (table : List (String × Toml.Value)) : List String :=
  ((table.map Prod.fst).filter fun key => !knownKeys.contains key).mergeSort
    fun a b => !decide (b < a)

/-- The message on a key without meaning. -/
def unknownKeyEntry (source : Path) (key : String) : LogEntry :=
  ⟨.warning, source.text ++ ": ignoring unknown [tool.covdiff] key " ++ Text.quote key⟩

/-- The texts of a value that is one text or a list of texts. -/
def textsOf? : Toml.Value → Option (List String)
  | .text s => some [s]
  | .list values => values.mapM Toml.Value.text?
  | _ => none

/-- The patterns at a key. -/
def patterns? (source : Path) (table : List (String × Toml.Value)) (key : String) :
    Except SettingsError (List String) :=
  match table.lookup key with
  | none => .ok []
  | some v =>
    match textsOf? v with
    | some texts => .ok texts
    | none => .error (.notPatterns source key)

/-- The format of a table. -/
def format? (source : Path) (table : List (String × Toml.Value)) :
    Except SettingsError FormatChoice :=
  match table.lookup "format" with
  | none => .ok .auto
  | some v =>
    match v.text?.bind FormatChoice.ofName? with
    | some c => .ok c
    | none =>
      -- the error is worded with the value
      if v.isShowable then .error (.unknownFormat source v.shown) else .error (.tooManyDigits none)

/-- The settings of a table. -/
def ofTable? (source : Path) (table : List (String × Toml.Value)) :
    Except SettingsError Settings := do
  let format ← format? source table
  let included ← patterns? source table "include"
  let excluded ← patterns? source table "exclude"
  return { filter := ⟨included, excluded⟩, format, source := some source }

/-! ## The document -/

/-- The table of a text file. -/
def document? (source : Path) (bytes : List UInt8) :
    Except SettingsError (List (String × Toml.Value)) :=
  match Text.decodeUtf8? bytes with
  | none => .error (.undecodable source)
  | some text =>
    match Toml.read? (Text.unifyLineEnds text) with
    | .ok table => .ok table
    | .error .malformed => .error (.malformed source)
    | .error (.tooManyDigits count) => .error (.tooManyDigits (some count))

/-- The settings table of a document, if it has one. -/
def table? (source : Path) (document : List (String × Toml.Value)) :
    Except SettingsError (Option (List (String × Toml.Value))) :=
  match document.lookup "tool" with
  | none => .ok none
  | some (.table tools) =>
    match tools.lookup "covdiff" with
    | none => .ok none
    | some (.table table) => .ok (some table)
    | some _ => .error (.notTable source)
  | some _ => .error .toolNotTable

/-- The settings of a file. -/
def ofBytes (source : Path) (bytes : List UInt8) : Logged SettingsError Settings :=
  match (document? source bytes).bind (table? source) with
  | .error e => .error e
  | .ok none => .ok { source := some source }
  | .ok (some table) =>
    -- keys without meaning are reported even if the table turns out to be faulty
    ((unknownKeys table).map (unknownKeyEntry source), ofTable? source table)

/-- The settings of the project that a path belongs to. -/
def load (w : Workspace) (start : Path) : Logged SettingsError Settings :=
  let place := projectRoot w start ++ [configName]
  match w.tree.at? place with
  | none => .ok {}
  | some .folder => .error (.isFolder (Tree.pathOf place))
  | some (.file bytes) => ofBytes (Tree.pathOf place) bytes

end Settings

end CoverageDiff
