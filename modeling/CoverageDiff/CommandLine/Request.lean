import CoverageDiff.CommandLine.Arguments
import CoverageDiff.Files.Path
import CoverageDiff.Filter
import CoverageDiff.Report.Origin
import CoverageDiff.Settings

/-!
# CoverageDiff.CommandLine.Request

What a command line asks for.

1. Options of the whole program come before the name of a command, those of a
   command after it, in any order with its words.
2. Of an option that can be given once, the last value counts.
3. A request for help wins over every fault in values and words, but not over
   options that do not exist.  A request for the version wins over the
   command, if there is a command of that name.
-/

namespace CoverageDiff.CommandLine

open Files

/-! ## Commands -/

/-- The commands of the program. -/
inductive CommandName where
  /-- Compares two reports. -/
  | diff
  /-- Lists the status of lines. -/
  | status
  /-- Writes a completion script. -/
  | completion
  deriving DecidableEq

namespace CommandName

/-- The word for a command. -/
def text : CommandName → String
  | diff => "diff"
  | status => "status"
  | completion => "completion"

/-- All commands. -/
def all : List CommandName := [diff, status, completion]

/-- The command that a word stands for. -/
def ofText? (s : String) : Option CommandName :=
  all.find? fun c => c.text == s

end CommandName

/-- The shells that scripts are written for. -/
inductive Shell where
  /-- The Bourne-again shell. -/
  | bash
  /-- The Z shell. -/
  | zsh
  /-- The friendly interactive shell. -/
  | fish
  deriving DecidableEq

namespace Shell

/-- The word for a shell. -/
def text : Shell → String
  | bash => "bash"
  | zsh => "zsh"
  | fish => "fish"

/-- All shells. -/
def all : List Shell := [bash, zsh, fish]

/-- The shell that a word stands for. -/
def ofText? (s : String) : Option Shell :=
  all.find? fun x => x.text == s

end Shell

/-! ## Options -/

/-- The option for help, which every command has. -/
def helpOption : OptionSpec := .flag "--help" none

/-- The options of the whole program. -/
def globalOptions : List OptionSpec :=
  [.flag "--version" none, .flag "--debug" none, .flag "--quiet" (some 'q'),
    .flag "--verbose" (some 'v'), helpOption]

/-- The options of a command. -/
def CommandName.options : CommandName → List OptionSpec
  | diff =>
    [.valued "--include", .valued "--exclude", .valued "--patterns", .valued "--baseline-mode",
      .valued "--current-mode", .valued "--format", .valued "--output", .flag "--color" none,
      .flag "--no-color" none, helpOption]
  | status => [.valued "--class", .valued "--output", helpOption]
  | completion => [.valued "--output", helpOption]

/-! ## Requests -/

/-- What holds for every command. -/
structure Globals where
  /-- Failures leave the program as they are. -/
  debug : Bool := false
  /-- Only errors are reported. -/
  quiet : Bool := false
  /-- Everything is reported. -/
  verbose : Bool := false
  deriving DecidableEq

/-- A comparison of two report files. -/
structure DiffRequest where
  /-- The first report. -/
  baseline : Path
  /-- The second report. -/
  current : Path
  /-- Include and exclude patterns. -/
  filter : FilterPlan := {}
  /-- Patterns as one text. -/
  patterns : Option String := none
  /-- How the first report was made. -/
  baselineMode : Option Mode := none
  /-- How the second report was made. -/
  currentMode : Option Mode := none
  format : Option FormatChoice := none
  /-- Where the result goes. -/
  output : Option Path := none
  /-- Whether colour is asked for. -/
  color : Bool := false
  /-- Whether colour is refused. -/
  noColor : Bool := false
  deriving DecidableEq

/-- A list of line statuses of a report file. -/
structure StatusRequest where
  report : Path
  /-- The classes; none stands for all. -/
  classes : List String := []
  /-- Where the result goes. -/
  output : Option Path := none
  deriving DecidableEq

/-- A completion script. -/
structure CompletionRequest where
  shell : Shell
  /-- Where the script goes. -/
  output : Option Path := none
  deriving DecidableEq

/-- What is to be done. -/
inductive Task where
  /-- Shows the version. -/
  | version
  /-- Shows help for a command, or for the whole program. -/
  | help (command : Option CommandName)
  /-- Compares. -/
  | diff (r : DiffRequest)
  /-- Lists statuses. -/
  | status (r : StatusRequest)
  /-- Writes a completion script. -/
  | completion (r : CompletionRequest)
  deriving DecidableEq

/-- A task with what holds for every command. -/
structure Request where
  /-- What holds for every command. -/
  globals : Globals := {}
  task : Task
  deriving DecidableEq

/-- Why a command line asks for nothing. -/
inductive RequestError where
  /-- The options cannot be read. -/
  | arguments (e : ArgumentError)
  /-- There is no such command. -/
  | unknownCommand (name : String)
  | missingWords
  /-- There are too many words. -/
  | extraWords (words : List String)
  /-- A value is not one of the choices. -/
  | badChoice (option value : String)
  deriving DecidableEq

namespace RequestError

/-- The wording of an error. -/
def message : RequestError → String
  | arguments e => e.message
  | unknownCommand name => "No such command '" ++ name ++ "'."
  | missingWords => "Missing argument."
  | extraWords words =>
    "Got unexpected extra arguments (" ++ String.intercalate " " words ++ ")"
  | badChoice option value =>
    "Invalid value for '" ++ option ++ "': '" ++ value ++ "' is not one of the choices."

end RequestError

/-! ## Reading -/

/-- The choice that the last value of an option makes. -/
def choice? {α : Type} (a : Arguments) (option : String) (ofText? : String → Option α) :
    Except RequestError (Option α) :=
  match a.last? option with
  | none => .ok none
  | some value =>
    match ofText? value with
    | some x => .ok (some x)
    | none => .error (.badChoice option value)

/-- The path that an option gives. -/
def path? (a : Arguments) (option : String) : Option Path :=
  (a.last? option).map Path.ofText

/-- The task of a `diff` command. -/
def diffTask? (a : Arguments) : Except RequestError Task :=
  match a.words with
  | [baseline, current] => do
    return .diff {
      baseline := .ofText baseline
      current := .ofText current
      filter := ⟨a.values "--include", a.values "--exclude"⟩
      patterns := a.last? "--patterns"
      baselineMode := ← choice? a "--baseline-mode" Mode.ofName?
      currentMode := ← choice? a "--current-mode" Mode.ofName?
      format := ← choice? a "--format" FormatChoice.ofName?
      output := path? a "--output"
      color := a.has "--color"
      noColor := a.has "--no-color" }
  | _ :: _ :: extra => .error (.extraWords extra)
  | _ => .error .missingWords

/-- The task of a `status` command. -/
def statusTask? (a : Arguments) : Except RequestError Task :=
  match a.words with
  | [report] =>
    .ok (.status { report := .ofText report, classes := a.values "--class",
                   output := path? a "--output" })
  | _ :: extra => .error (.extraWords extra)
  | [] => .error .missingWords

/-- The task of a `completion` command. -/
def completionTask? (a : Arguments) : Except RequestError Task :=
  match a.words with
  | [word] =>
    match Shell.ofText? word with
    | some shell => .ok (.completion { shell, output := path? a "--output" })
    | none => .error (.badChoice "SHELL" word)
  | _ :: extra => .error (.extraWords extra)
  | [] => .error .missingWords

/-- The task of a command with its arguments. -/
def task? (c : CommandName) (args : List String) : Except RequestError Task :=
  match Arguments.read c.options true args with
  | .error e => .error (.arguments e)
  | .ok a =>
    if a.has "--help" then .ok (.help (some c))
    else
      match c with
      | .diff => diffTask? a
      | .status => statusTask? a
      | .completion => completionTask? a

/-- What holds for every command. -/
def globalsOf (a : Arguments) : Globals where
  debug := a.has "--debug"
  quiet := a.has "--quiet"
  verbose := a.has "--verbose"

/-- What a command line asks for. -/
def Request.read (args : List String) : Except RequestError Request :=
  match Arguments.read globalOptions false args with
  | .error e => .error (.arguments e)
  | .ok a =>
    if a.has "--help" then .ok { task := .help none }
    else
      match a.words with
      | [] =>
        if a.has "--version" then .ok { task := .version }
        else .ok { globals := globalsOf a, task := .help none }
      | word :: rest =>
        match CommandName.ofText? word with
        | none => .error (.unknownCommand word)
        | some c =>
          if a.has "--version" then .ok { task := .version }
          else (task? c rest).map fun task => { globals := globalsOf a, task }

end CoverageDiff.CommandLine
