import CoverageDiff.Report.Listing
import CoverageDiff.Report.Payload
import CoverageDiff.Report.Rows

/-!
# CoverageDiff.Report.Rendering

The three formats of a report.  A format is named in any case and with blanks
around.
-/

namespace CoverageDiff

/-- A format for reports. -/
inductive ReportFormat where
  /-- Tables for readers. -/
  | human
  /-- Rows for searching. -/
  | rg
  /-- A structured document. -/
  | json
  deriving DecidableEq

namespace ReportFormat

/-- The word for a format. -/
def name : ReportFormat → String
  | human => "human"
  | rg => "rg"
  | json => "json"

/-- The format that a text names. -/
def ofText? (text : String) : Option ReportFormat :=
  let word := String.ofList (Text.lower (Text.trim text.toList))
  [human, rg, json].find? fun f => f.name == word

end ReportFormat

/-- Why a report cannot be rendered. -/
inductive RenderError where
  /-- There is no such format. -/
  | unknownFormat (name : Option String)
  /-- A cell of a table has a closing tag that closes nothing. -/
  | markup (e : Styled.MarkupError)
  /-- The structured document cannot be made. -/
  | payload (e : Payload.Error)
  deriving DecidableEq

namespace RenderError

/-- The wording of an error. -/
def message : RenderError → String
  | unknownFormat name =>
    "Unsupported format: " ++ Text.quote? name ++ ". Expected one of: human, rg, json."
  | markup e => e.message
  | payload e => e.message

end RenderError

namespace Report

/-- A report in a format. -/
def renderAs (r : Report) (format : ReportFormat) (origin : Origin) (color : Bool) :
    Except RenderError String :=
  match format with
  | .human => (Listing.render color r origin).mapError .markup
  | .rg => .ok r.rowsText
  | .json => (Payload.render? r origin Payload.currentVersion).mapError .payload

/-- A report in the format with a name. -/
def render (r : Report) (format : Option String) (origin : Origin) (color : Bool) :
    Except RenderError String :=
  match format.bind ReportFormat.ofText? with
  | some f => r.renderAs f origin color
  | none => .error (.unknownFormat format)

end Report

end CoverageDiff
