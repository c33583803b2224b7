import CoverageDiff.CommandLine.Page
import CoverageDiff.Loading
import CoverageDiff.Styled.Plain

/-!
# CoverageDiff.CommandLine.Outcome

What a run of the program leaves behind.

1. A run ends with a status, at most one page that was shown or written, and
   messages.
2. A failure is foreseen, unforeseen, a misuse of the command line, or not
   handled at all.  Foreseen and unforeseen failures are reported and have a
   status of their own; when debugging they then leave the program like
   failures that are not handled.
3. A page that is shown has no styling and ends with a line feed; in a file it
   keeps its styling.
4. Showing a page always succeeds; a standard output that is closed or full is
   left out.
-/

namespace CoverageDiff.CommandLine

open Files

/-! ## Statuses -/

/-- How a run ends. -/
inductive ExitStatus where
  /-- All is well; for a comparison, the reports are equivalent. -/
  | ok
  /-- The reports differ. -/
  | different
  /-- The command line is misused. -/
  | usage
  /-- A report is not well-formed. -/
  | badData
  /-- A report is missing. -/
  | noInput
  /-- A failure that was not foreseen. -/
  | software
  /-- The configuration is not valid. -/
  | config
  /-- A failure left the program. -/
  | escaped
  deriving DecidableEq

/-- The number that a status is passed on as. -/
def ExitStatus.code : ExitStatus → Nat
  | ok => 0
  | different => 1
  | usage => 2
  | badData => 65
  | noInput => 66
  | software => 70
  | config => 78
  | escaped => 1

/-! ## Failures -/

/-- Why a run does not reach its end. -/
inductive Failure where
  | settings (e : SettingsError)
  | filter (e : FilterError)
  /-- A report is not loaded. -/
  | load (e : LoadError)
  /-- The comparison is not rendered. -/
  | render (e : RenderError)
  /-- The result is not written. -/
  | write (p : Path) (e : PathError)
  deriving DecidableEq

/-- What becomes of a failure. -/
inductive Handling where
  /-- Reported, with a status of its own. -/
  | foreseen (status : ExitStatus) (text : String)
  /-- Reported as a failure of the program. -/
  | unforeseen
  /-- Reported as a misuse of the command line. -/
  | misuse
  /-- Leaves the program. -/
  | unhandled
  deriving DecidableEq

namespace Failure

/-- The wording of a failure. -/
def message : Failure → String
  | settings e => e.message
  | filter e => e.message
  | load e => e.message
  | render e => e.message
  | write p .isFolder => "[Errno 21] Is a directory: " ++ Text.quote p.text
  | write p .isFile => "[Errno 17] File exists: " ++ Text.quote p.text
  | write p .notFolder => "[Errno 20] Not a directory: " ++ Text.quote p.text
  | write p .missing => "[Errno 2] No such file or directory: " ++ Text.quote p.text
  | write p .nameTooLong => "[Errno 36] File name too long: " ++ Text.quote p.text

/-- What becomes of settings that cannot be read. -/
def settingsHandling (e : SettingsError) : Handling :=
  match e with
  | .undecodable _ => .unhandled
  | .tooManyDigits _ => .unhandled
  | .toolNotTable => .unhandled
  | e => .foreseen .config ("invalid configuration: " ++ e.message)

/-- What becomes of a report that is not loaded. -/
def loadHandling (e : LoadError) : Handling :=
  match e with
  | .notFound _ => .foreseen .noInput e.message
  | .isFolder _ => .foreseen .noInput e.message
  | .malformed _ => .foreseen .badData e.message
  | .invalid .infiniteCoverage => .unforeseen
  | .invalid _ => .foreseen .badData e.message
  | .nameTooLong _ => .unforeseen
  | .wideEncoding => .unforeseen
  | .unknownEncoding _ => .unforeseen

/-- What becomes of a failure. -/
def handling : Failure → Handling
  | settings e => settingsHandling e
  | filter e =>
    match e.cause with
    | .boundTooLarge => .unhandled
    | _ => .misuse
  | load e => loadHandling e
  | render _ => .unforeseen
  | write _ _ => .unhandled

end Failure

/-! ## Messages -/

/-- What stands among the messages of a run. -/
inductive Message where
  /-- A line with its weight. -/
  | entry (e : LogEntry)
  /-- Details on a failure that was not foreseen. -/
  | details (f : Failure)
  deriving DecidableEq

/-- A message as it is shown. -/
def Message.line : Message → String
  | entry e => e.line
  | details f => (LogEntry.mk .error f.message).line

/-- The least weight of log entries that are shown. -/
def Globals.threshold (g : Globals) : LogLevel :=
  if g.quiet then .error else if g.verbose then .debug else .info

/-- The log entries that are shown. -/
def Globals.shown (g : Globals) (log : List LogEntry) : List Message :=
  (log.filter (LogEntry.passes g.threshold)).map .entry

/-! ## Pages -/

/-- Where a page went. -/
inductive Delivery where
  /-- There is none. -/
  | nothing
  /-- It was shown. -/
  | shown (page : Page)
  /-- It was written to a file. -/
  | saved (p : Path) (page : Page)
  deriving DecidableEq

/-- A page as it is shown. -/
def Page.onScreen (page : Page) : String :=
  Styled.plain (page.text ++ "\n")

/-- A page as it stands in a file. -/
def Page.inFile (page : Page) : List UInt8 :=
  Text.encodeUtf8 (page.text ++ "\n").toList

/-- Whether a path stands for showing instead of writing. -/
def isScreen (p : Path) : Bool :=
  p = .ofText "-"

/-- Shows a page, or writes it to the file at a path. -/
def deliver (w : Workspace) (page : Page) (output : Option Path) :
    Except Failure (Workspace × Delivery) :=
  match output with
  | none => .ok (w, .shown page)
  | some p =>
    if isScreen p then .ok (w, .shown page)
    else
      match w.write p page.inFile with
      | .ok w' => .ok (w', .saved p page)
      | .error e => .error (.write p e)

/-- The same for the text of a result; an empty one is neither shown nor written. -/
def deliverText (w : Workspace) (text : String) (output : Option Path) :
    Except Failure (Workspace × Delivery) :=
  if text.isEmpty then .ok (w, .nothing) else deliver w (.result text) output

/-! ## Outcomes -/

/-- What a run leaves behind. -/
structure Outcome where
  /-- How it ended. -/
  status : ExitStatus
  /-- The page that it showed or wrote. -/
  delivery : Delivery := .nothing
  messages : List Message := []
  /-- The files after it. -/
  workspace : Workspace
  /-- The failure that left the program. -/
  failure : Option Failure := none
  deriving DecidableEq

namespace Outcome

/-- The text that is shown. -/
def output (o : Outcome) : String :=
  match o.delivery with
  | .shown page => page.onScreen
  | _ => ""

/-- The status and the failure that leaves the program, given the status of a handled failure. -/
def ending (g : Globals) (f : Failure) (status : ExitStatus) : ExitStatus × Option Failure :=
  if g.debug then (.escaped, some f) else (status, none)

/-- The outcome of a run that fails after some messages. -/
def failed (w : Workspace) (g : Globals) (before : List Message) (f : Failure) : Outcome :=
  match f.handling with
  | .foreseen status text =>
    { status := (ending g f status).1, failure := (ending g f status).2, workspace := w
      messages := before ++ [.entry ⟨.error, text⟩] }
  | .unforeseen =>
    { status := (ending g f .software).1, failure := (ending g f .software).2, workspace := w
      messages := before ++ [.entry ⟨.error, "unexpected failure"⟩, .details f] }
  | .misuse =>
    { status := .usage, workspace := w, messages := before ++ [.entry ⟨.error, f.message⟩] }
  | .unhandled => { status := .escaped, failure := some f, workspace := w, messages := before }

/-- The outcome of a run that ends after delivering a page, or fails to deliver it. -/
def delivered (w : Workspace) (g : Globals) (before after : List Message) (status : ExitStatus) :
    Except Failure (Workspace × Delivery) → Outcome
  | .ok (w', delivery) =>
    { status, delivery, workspace := w', messages := before ++ after }
  | .error f => failed w g before f

end Outcome

end CoverageDiff.CommandLine
