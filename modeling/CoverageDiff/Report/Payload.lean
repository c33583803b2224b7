import CoverageDiff.Json.Schema
import CoverageDiff.Report.Basic
import CoverageDiff.Report.Origin

/-!
# CoverageDiff.Report.Payload

A report as a structured document, and the schema of such documents.

1. Absent parts of an element are left out.
2. `Payload.schema?` gives the schema of a version; there is one version.
3. `Payload.render` writes a document only if it has the form of the schema.
-/

namespace CoverageDiff

/-! ## Reports as documents -/

/-- A mark as a document. -/
def Mark.toJson : Mark → Json
  | flag b => .bool b
  | label s => .str s

/-- A value as a document. -/
def Value.toJson : Value → Json
  | status s => .str s.name
  | marks ms => .arr (ms.map Mark.toJson)

/-- An element as a document. -/
def Element.toJson (e : Element) : Json :=
  .obj ([("class", .str e.className), ("kind", .str e.kind.name)]
    ++ Json.field? "line" (e.place.line?.map .int)
    ++ Json.field? "index" (e.place.index?.map .int)
    ++ Json.field? "before" (e.before.map Value.toJson)
    ++ Json.field? "after" (e.after.map Value.toJson))

namespace Report

/-- The number of elements of each level as a document. -/
def countsJson (r : Report) : Json :=
  .obj (r.counts.map fun (l, n) => (l.name, .int n))

/-- The fields of a report as a document. -/
def jsonFields (r : Report) : List (String × Json) :=
  [("equivalent", .bool r.isEmpty), ("counts", r.countsJson)]
    ++ Level.all.map fun l => (l.name, .arr ((r.level l).map Element.toJson))

/-- A report as a document. -/
def toJson (r : Report) : Json :=
  .obj r.jsonFields

end Report

/-- Counts of lines by status as a document. -/
def StatusCounts.toJson (c : StatusCounts) : Json :=
  .obj [("none", .int c.none), ("partial", .int c.partly), ("full", .int c.full)]

/-- Where one side came from as a document. -/
def Side.toJson (s : Side) : Json :=
  .obj ([("reports", .arr (s.reports.map .str))]
    ++ Json.field? "mode" (s.mode.map fun m => .str m.name)
    ++ Json.field? "lines" (s.lines.map StatusCounts.toJson))

/-! ## The schema -/

namespace Payload

/-- The form of one side's origin. -/
def sideSchema : Schema :=
  .named "side" <| .record
    [("reports", true, .list (.text none)),
      ("mode", false, .text (some (Mode.all.map Mode.name))),
      ("lines", false, .record
        [("none", true, .integer (some 0)), ("partial", true, .integer (some 0)),
          ("full", true, .integer (some 0))])]

/-- The form of a value: a status, two outcomes, or labels. -/
def valueSchema : Schema :=
  .named "value" <| .oneOf
    [.text (some ["NONE", "PARTIAL", "FULL"]), .tuple .boolean 2, .list (.text none)]

/-- The form of an element. -/
def elementSchema : Schema :=
  .named "element" <| .record
    [("class", true, .text none),
      ("kind", true, .text (some ["ADDED", "REMOVED", "CHANGED"])),
      ("line", false, .integer (some 1)),
      ("index", false, .integer (some 0)),
      ("before", false, valueSchema),
      ("after", false, valueSchema)]

/-- The form of the payload. -/
def schema : Schema :=
  .record
    [("schema", true, .text none),
      ("meta", true, .record
        [("version", true, .text none), ("baseline", true, sideSchema),
          ("current", true, sideSchema)]),
      ("equivalent", true, .boolean),
      ("counts", true, .record (Level.all.map fun l => (l.name, true, .integer (some 0)))),
      ("classes", true, .list elementSchema),
      ("lines", true, .list elementSchema),
      ("jumps", true, .list elementSchema),
      ("switches", true, .list elementSchema)]

/-- The name of the schema. -/
def schemaId : String := "https://covdiff.dev/schema/diff.v1.json"

/-- The schema as a document with its definitions. -/
def schemaDocument : Json :=
  .obj ([("$schema", .str "https://json-schema.org/draft/2020-12/schema"),
      ("$id", .str schemaId),
      ("title", .str "covdiff structural coverage diff")]
    ++ (schema.document.fields?.getD [])
    ++ [("$defs", .obj ([sideSchema, valueSchema, elementSchema].filterMap Schema.definition?))])

/-! ## Versions -/

/-- Why a payload cannot be written. -/
inductive Error where
  /-- There is no schema of this version. -/
  | unknownVersion (version : String)
  /-- The document does not have the form of the schema. -/
  | notValid
  deriving DecidableEq

namespace Error

/-- The wording of an error. -/
def message : Error → String
  | unknownVersion version =>
    "Unsupported schema version: " ++ Text.quote version ++ ". Available versions: v1"
  | notValid => "the payload does not have the form of the schema"

end Error

/-- The version of the schema that is in use. -/
def currentVersion : String := "v1"

/-- The schema document of a version. -/
def schema? (version : String) : Except Error Json :=
  if version = currentVersion then .ok schemaDocument else .error (.unknownVersion version)

/-! ## The payload -/

/-- The version of this program. -/
def programVersion : String := "0.1.0"

/-- A report with its origin as a document. -/
def document (r : Report) (origin : Origin) : Json :=
  .obj ([("schema", .str schemaId),
      ("meta", .obj [("version", .str programVersion), ("baseline", origin.baseline.toJson),
        ("current", origin.current.toJson)])]
    ++ r.jsonFields)

/-- The document of a report for a schema version. -/
def build? (r : Report) (origin : Origin) (version : String) : Except Error Json :=
  (schema? version).map fun _ => document r origin

/-- The written document of a report, if it has the form of the schema. -/
def render? (r : Report) (origin : Origin) (version : String) : Except Error String :=
  match build? r origin version with
  | .error e => .error e
  | .ok doc => if schema.accepts doc then .ok doc.render else .error .notValid

end Payload

end CoverageDiff
